/-
Module: RuntimeConsole.Proofs.WireRoundTrip
Purpose: Frames written to a byte stream are what is read from it, in the same order, whatever
  lines that are no frames stand between them.
Main exports:
  Console.Receives, Console.read_receives, wire_round_trip
-/
import RuntimeConsole.Proofs.CallResolution
import RuntimeConsole.Proofs.FrameRoundTrip
import RuntimeConsole.Proofs.SessionMove

namespace RuntimeConsole

namespace Console

/-! ### What arrives stays until it is read -/

/-- What has arrived over a channel is kept, and the channel is served as before. -/
def KeepsInbound (channel : Nat) (before after : Console) : Prop :=
  ∀ wire, before.servedWire? channel = some wire →
    ∃ outbound, after.servedWire? channel = some { wire with outbound }

namespace KeepsInbound

variable {channel : Nat} {first second third : Console}

theorem of_changes {aspects : List Aspect} (step : Changes aspects first second)
    (apart : .channels ∉ aspects) : KeepsInbound channel first second := by
  intro wire served
  have channels : second.channels = first.channels := step.same .channels apart
  refine ⟨wire.outbound, ?_⟩
  rw [servedWire?, channels]
  exact served

theorem trans (front : KeepsInbound channel first second)
    (back : KeepsInbound channel second third) : KeepsInbound channel first third := by
  intro wire served
  obtain ⟨outbound, served⟩ := front wire served
  obtain ⟨outbound, served⟩ := back _ served
  exact ⟨outbound, served⟩

end KeepsInbound

variable (channel : Nat)

theorem sendOver_keepsInbound (console : Console) (other : Nat) (frame : Frame) :
    KeepsInbound channel console (console.sendOver other frame).1 := by
  unfold sendOver
  split
  next => exact .of_changes (console.emit_changes (.sent other frame) rfl) (by decide)
  next wire known =>
      split
      next serving =>
          intro kept served
          obtain ⟨inside, -⟩ := List.getElem?_eq_some_iff.mp known
          by_cases same : other = channel
          · subst same
            obtain rfl : wire = kept := by simpa [servedWire?, known, serving] using served
            exact ⟨wire.outbound ++ [frame], by simp [servedWire?, inside, serving]⟩
          · refine ⟨kept.outbound, ?_⟩
            simpa [servedWire?, same] using served
      next => exact .of_changes (.refl [] console) (by decide)
  next => exact .of_changes (.refl [] console) (by decide)

theorem sendFrame_keepsInbound (console : Console) (frame : Frame) :
    KeepsInbound channel console (console.sendFrame frame) := by
  unfold sendFrame
  split
  · exact console.sendOver_keepsInbound channel _ frame
  · exact .of_changes (.refl [] console) (by decide)

theorem handle_keepsInbound (console : Console) (args : List Json) (handler : Handler) :
    KeepsInbound channel console (console.handle args handler).1 := by
  cases handler with
  | clearTerminal => exact .of_changes console.clear_changes (by decide)
  | reportCursor => exact .of_changes (console.writeText_changes cursorReset) (by decide)
  | refreshWorkspace => exact .of_changes (console.emit_changes .refreshedWorkspace rfl) (by decide)
  | clearLint => exact .of_changes (console.emit_changes .clearedLint rfl) (by decide)
  | showLint =>
      unfold handle showLint
      dsimp only
      split
      next messages _ =>
          exact .of_changes (console.emit_changes (.showedLint messages) rfl) (by decide)
      next => exact .of_changes (.refl [] console) (by decide)
  | guest label sends reply =>
      have told : KeepsInbound channel console (console.emit (.guestHandled label args)) :=
        .of_changes (console.emit_changes _ rfl) (by decide)
      cases sends with
      | none => exact told
      | some name => exact told.trans (sendFrame_keepsInbound channel _ (.message name []))

theorem dispatch_keepsInbound (console : Console) (name : String) (args : List Json) :
    KeepsInbound channel console (console.dispatch name args).1 := by
  unfold dispatch
  split
  · exact console.handle_keepsInbound channel args _
  · exact .of_changes (.refl [] console) (by decide)

/-- Nothing the runtime says undoes what it has said before. -/
theorem handleFrame_keepsInbound (console : Console) (frame : Frame) :
    KeepsInbound channel console (console.handleFrame frame) := by
  cases frame with
  | message name args => exact console.dispatch_keepsInbound channel name args
  | call id name args =>
      exact (console.dispatch_keepsInbound channel name args).trans
        (sendFrame_keepsInbound channel _ _)
  | response id result => exact .of_changes (console.complete_changes id _) (by decide)
  | error id text => exact .of_changes (console.complete_changes id _) (by decide)

/-! ### The write half -/

theorem writeWire_frame {console : Console} {channel : Nat} {wire : Wire} {frame : Frame}
    {rest : List Frame} (served : console.servedWire? channel = some wire)
    (waits : wire.outbound = frame :: rest) (heard : wire.remoteOpen = true) :
    console.writeWire channel =
      (console.setWire channel { wire with outbound := rest }).emit (.sent channel frame) := by
  rw [writeWire, served]
  simp only [waits, heard, if_true]

theorem writeWire_keepsInbound (console : Console) :
    KeepsInbound channel console (console.writeWire channel) := by
  intro wire served
  unfold writeWire
  rw [served]
  dsimp only
  split
  next => exact ⟨wire.outbound, served⟩
  next frame rest waits =>
      have kept : (console.setWire channel { wire with outbound := rest }).servedWire? channel =
          some { wire with outbound := rest } := servedWire?_setWire served rfl
      split <;> exact ⟨rest, kept⟩

/-- The frames that were accepted are written one after the other. -/
theorem run_writes {frames : List Frame} {console : Console} {channel : Nat} {wire : Wire}
    (served : console.servedWire? channel = some wire) (heard : wire.remoteOpen = true)
    (waiting : wire.outbound = frames) :
    (console.run (List.replicate frames.length (.work (.write channel)))).trace =
      console.trace ++ frames.map (.sent channel) := by
  induction frames generalizing console wire with
  | nil => simp
  | cons frame frames inductionHypothesis =>
      have written := writeWire_frame served waiting heard
      have kept : (console.writeWire channel).servedWire? channel =
          some { wire with outbound := frames } := by
        rw [written]
        exact servedWire?_setWire served rfl
      have rest := inductionHypothesis kept heard rfl
      have step : (console.writeWire channel).trace = console.trace ++ [.sent channel frame] := by
        rw [written]
        rfl
      rw [List.length_cons, List.replicate_succ, run_cons]
      rw [step, List.append_assoc] at rest
      exact rest

/-! ### The read half -/

/-- The lines that have arrived over a channel and are not read yet, when some more bytes are
still to arrive. -/
def Receives (console : Console) (channel : Nat) (ahead : List UInt8)
    (lines : List Transmission) : Prop :=
  ∃ wire, console.servedWire? channel = some wire ∧ wire.remoteOpen = true ∧
    wire.inbound ++ ahead = lines.flatMap Transmission.bytes

/-- What has arrived is a whole line and more, if the end of a line is in it. -/
theorem wholeLine {inbound ahead content others : List UInt8} (ended : lineEnd ∈ inbound)
    (within : lineEnd ∉ content) (arrived : inbound ++ ahead = content ++ [lineEnd] ++ others) :
    ∃ rest, inbound = content ++ lineEnd :: rest ∧ rest ++ ahead = others := by
  rcases List.append_eq_append_iff.mp arrived with ⟨missing, whole, rfl⟩ | ⟨rest, rfl, rfl⟩
  · rcases List.eq_nil_or_concat missing with rfl | ⟨front, last, rfl⟩
    · exact ⟨[], by simpa using whole.symm, rfl⟩
    · -- The end of the line is still missing, so none can have arrived.
      rw [List.concat_eq_append, ← List.append_assoc] at whole
      have content_eq := List.append_inj_left' whole rfl
      exact absurd (content_eq ▸ List.mem_append_left front ended) within
  · exact ⟨rest, by simp, rfl⟩

theorem nextLine_whole {wire : Wire} {content rest : List UInt8} (within : lineEnd ∉ content)
    (arrived : wire.inbound = content ++ lineEnd :: rest) :
    wire.nextLine = (.line content, { wire with inbound := rest }) := by
  have visible : ∀ byte ∈ content, (byte != lineEnd) = true := by
    intro byte member
    rw [bne_iff_ne]
    rintro rfl
    exact within member
  have ended : wire.inbound.contains lineEnd = true := by simp [arrived]
  rw [Wire.nextLine, if_pos ended, arrived, List.takeWhile_append_of_pos visible,
    List.dropWhile_append_of_pos visible]
  simp

variable {console : Console} {channel : Nat} {ahead : List UInt8} {lines : List Transmission}

/-- Where no line has arrived as a whole nothing is read. -/
theorem read_waits {wire : Wire} (served : console.servedWire? channel = some wire)
    (opened : wire.remoteOpen = true) (unended : lineEnd ∉ wire.inbound) :
    console.inbound? (.work (.read channel)) = none ∧ console.readWire channel = console := by
  have waits : wire.nextLine = (.waiting, wire) := by simp [Wire.nextLine, unended, opened]
  constructor
  · simp [inbound?, served, waits]
  · simp [readWire, served, waits]

/-- Reading takes the next line as a whole, and brings in the frame in it, if there is one. -/
theorem read_line {line : Transmission} {wire : Wire} {rest : List UInt8} (proper : line.IsProper)
    (served : console.servedWire? channel = some wire)
    (arrived : wire.inbound = line.content ++ lineEnd :: rest) :
    console.inbound? (.work (.read channel)) = line.frame? ∧
      ∃ outbound, (console.readWire channel).servedWire? channel =
        some { wire with inbound := rest, outbound } := by
  have next := nextLine_whole (line.content_noEnd proper) arrived
  have content := line.readLine_content proper
  have taken : (console.setWire channel { wire with inbound := rest }).servedWire? channel =
      some { wire with inbound := rest } := servedWire?_setWire served rfl
  cases said : line.frame? with
  | none =>
      rw [said] at content
      constructor
      · simp [inbound?, served, next, content]
      · refine ⟨wire.outbound, ?_⟩
        simpa [readWire, served, next, content] using taken
  | some frame =>
      rw [said] at content
      obtain ⟨outbound, kept⟩ := handleFrame_keepsInbound channel _ frame _ taken
      constructor
      · simp [inbound?, served, next, content]
      · refine ⟨outbound, ?_⟩
        simpa [readWire, served, next, content] using kept

/-- A read takes no line or the next one. -/
theorem read_receives (proper : ∀ line ∈ lines, line.IsProper)
    (receives : console.Receives channel ahead lines) :
    (console.inbound? (.work (.read channel)) = none ∧
        (console.readWire channel).Receives channel ahead lines ∧ (ahead = [] → lines = [])) ∨
      ∃ line rest, lines = line :: rest ∧
        console.inbound? (.work (.read channel)) = line.frame? ∧
        (console.readWire channel).Receives channel ahead rest := by
  obtain ⟨wire, served, opened, arrived⟩ := receives
  by_cases ended : lineEnd ∈ wire.inbound
  · refine .inr ?_
    cases lines with
    | nil =>
        rw [List.flatMap_nil, List.append_eq_nil_iff] at arrived
        rw [arrived.1] at ended
        cases ended
    | cons line rest =>
        have lineProper := proper line List.mem_cons_self
        rw [List.flatMap_cons, line.bytes_eq] at arrived
        obtain ⟨left, inbound, others⟩ :=
          wholeLine ended (line.content_noEnd lineProper) arrived
        obtain ⟨said, outbound, kept⟩ := read_line lineProper served inbound
        exact ⟨line, rest, rfl, said, _, kept, opened, others⟩
  · obtain ⟨silent, same⟩ := read_waits served opened ended
    rw [same]
    refine .inl ⟨silent, ⟨wire, served, opened, arrived⟩, ?_⟩
    rintro rfl
    cases lines with
    | nil => rfl
    | cons line rest =>
        -- A line that has arrived as a whole has its end.
        rw [List.append_nil, List.flatMap_cons, line.bytes_eq] at arrived
        exact absurd (by simp [arrived]) ended

end Console

/-! ### The round trip -/

/-- The events of a byte stream: pieces of what the other side writes arrive, and serving the
stream reads and writes. -/
inductive Event.OnStream (channel : Nat) : Event → Prop where
  | arrives (piece : List UInt8) : OnStream channel (.remoteWrites channel piece)
  | reads : OnStream channel (.work (.read channel))
  | writes : OnStream channel (.work (.write channel))

/-- The bytes that arrive over a channel in an event. -/
def Event.arriving (channel : Nat) : Event → List UInt8
  | .remoteWrites other piece => if other = channel then piece else []
  | _ => []

namespace Console

/-- The frame an event brings in, if it brings one. -/
def dispatched (console : Console) (event : Event) : List Frame :=
  (console.inbound? event).toList

/-- A frame that is read does what it does when it comes in by itself. -/
theorem apply_of_dispatched {console : Console} {channel : Nat} {frame : Frame}
    (brought : console.dispatched (.work (.read channel)) = [frame]) :
    ∃ rest, console.apply (.work (.read channel)) =
      (console.setWire channel rest).apply (.frame frame) := by
  cases served : console.servedWire? channel with
  | none => simp [dispatched, inbound?, served] at brought
  | some wire =>
      cases found : wire.nextLine with
      | mk input rest =>
          cases input with
          | finished => simp [dispatched, inbound?, served, found] at brought
          | waiting => simp [dispatched, inbound?, served, found] at brought
          | line bytes =>
              cases content : readLine bytes with
              | nothing => simp [dispatched, inbound?, served, found, content] at brought
              | malformed => simp [dispatched, inbound?, served, found, content] at brought
              | frame read =>
                  obtain rfl : read = frame := by
                    simpa [dispatched, inbound?, served, found, content] using brought
                  exact ⟨rest, by simp [apply, perform, readWire, served, found, content]⟩

variable {console : Console} {channel : Nat} {ahead : List UInt8} {lines : List Transmission}

/-- Whatever happens on a byte stream, lines are taken from the front of what arrives, each as a
whole, and the frames in them are brought in. -/
theorem step_receives (proper : ∀ line ∈ lines, line.IsProper) {event : Event}
    (onStream : event.OnStream channel)
    (receives : console.Receives channel (event.arriving channel ++ ahead) lines) :
    ∃ taken rest, lines = taken ++ rest ∧
      console.dispatched event = taken.filterMap Transmission.frame? ∧
      (console.apply event).Receives channel ahead rest := by
  cases onStream with
  | arrives piece =>
      obtain ⟨wire, served, opened, arrived⟩ := receives
      have put : (console.remoteWrites channel piece).1 =
          console.setWire channel { wire with inbound := wire.inbound ++ piece } := by
        rw [remoteWrites, served]
      have kept : (console.apply (.remoteWrites channel piece)).servedWire? channel =
          some { wire with inbound := wire.inbound ++ piece } := by
        rw [apply, put]
        exact servedWire?_setWire served rfl
      refine ⟨[], lines, rfl, rfl, _, kept, opened, ?_⟩
      simpa [Event.arriving] using arrived
  | reads =>
      rcases read_receives proper receives with ⟨silent, kept, -⟩ | ⟨line, rest, rfl, said, kept⟩
      · exact ⟨[], lines, rfl, by rw [dispatched, silent]; rfl, kept⟩
      · refine ⟨[line], rest, rfl, ?_, kept⟩
        rw [dispatched, said]
        cases found : line.frame? <;> simp [found]
  | writes =>
      obtain ⟨wire, served, opened, arrived⟩ := receives
      obtain ⟨outbound, kept⟩ := console.writeWire_keepsInbound channel wire served
      exact ⟨[], lines, rfl, rfl, _, kept, opened, arrived⟩

/-- What is brought in while the bytes of some lines arrive are the frames of the first of them. -/
theorem run_receives (proper : ∀ line ∈ lines, line.IsProper) {events : List Event}
    (onStream : ∀ event ∈ events, event.OnStream channel)
    (receives : console.Receives channel (events.flatMap (Event.arriving channel)) lines) :
    ∃ taken rest, lines = taken ++ rest ∧
      console.noted dispatched events = taken.filterMap Transmission.frame? ∧
      (console.run events).Receives channel [] rest := by
  induction events generalizing console lines with
  | nil => exact ⟨[], lines, rfl, rfl, receives⟩
  | cons event events inductionHypothesis =>
      rw [List.flatMap_cons] at receives
      obtain ⟨first, rest, rfl, brought, received⟩ :=
        step_receives proper (onStream event List.mem_cons_self) receives
      obtain ⟨second, rest, rfl, broughtLater, receivedLater⟩ :=
        inductionHypothesis (fun line member => proper line (List.mem_append_right first member))
          (fun other member => onStream other (List.mem_cons_of_mem event member)) received
      refine ⟨first ++ second, rest, (List.append_assoc ..).symm, ?_, receivedLater⟩
      rw [noted, brought, broughtLater, List.filterMap_append]

/-- When nothing is still to arrive, a read a line brings all frames in. -/
theorem run_reads (proper : ∀ line ∈ lines, line.IsProper)
    (receives : console.Receives channel [] lines) {reads : Nat} (enough : lines.length ≤ reads) :
    console.noted dispatched (List.replicate reads (.work (.read channel))) =
      lines.filterMap Transmission.frame? := by
  induction reads generalizing console lines with
  | zero =>
      obtain rfl := List.length_eq_zero_iff.mp (Nat.le_zero.mp enough)
      rfl
  | succ reads inductionHypothesis =>
      rw [List.replicate_succ, noted]
      rcases read_receives proper receives with ⟨silent, kept, done⟩ | ⟨line, rest, rfl, said, kept⟩
      · obtain rfl := done rfl
        have later := inductionHypothesis proper kept (Nat.zero_le reads)
        rw [dispatched, silent]
        exact later
      · have later := inductionHypothesis
          (fun other member => proper other (List.mem_cons_of_mem line member)) kept
          (Nat.le_of_succ_le_succ enough)
        rw [dispatched, said, List.filterMap_cons]
        cases found : line.frame? with
        | none => exact later
        | some frame => exact congrArg (frame :: ·) later

end Console

/-- The bytes that leave over a channel with an effect. -/
def Effect.leaving (channel : Nat) : Effect → List UInt8
  | .sent other frame => if other = channel then writeLine frame else []
  | _ => []

/-- The bytes that have left over a channel. -/
def Console.written (console : Console) (channel : Nat) : List UInt8 :=
  console.trace.flatMap (Effect.leaving channel)

theorem leaving_sent (channel : Nat) (frames : List Frame) :
    (frames.map (Effect.sent channel)).flatMap (Effect.leaving channel) =
      frames.flatMap writeLine := by
  rw [List.flatMap_map]
  simp [Effect.leaving]

/-- Frames that one side of a byte stream accepted leave it as their lines, in their order, and
where these arrive, in whatever pieces and among whatever lines that are blank or no frames, the
same frames are brought in, in the same order and none besides, each as if it came in by itself. -/
theorem wire_round_trip {lines : List Transmission} (proper : ∀ line ∈ lines, line.IsProper)
    {sender receiver : Console} {outlet inlet : Nat} {sending receiving : Wire}
    (sends : sender.servedWire? outlet = some sending) (heard : sending.remoteOpen = true)
    (accepted : sending.outbound = lines.filterMap Transmission.frame?)
    (receives : receiver.servedWire? inlet = some receiving) (opened : receiving.remoteOpen = true)
    (nothingYet : receiving.inbound = [])
    {events : List Event} (onStream : ∀ event ∈ events, event.OnStream inlet)
    (arrived : events.flatMap (Event.arriving inlet) = lines.flatMap Transmission.bytes)
    {reads : Nat} (enough : lines.length ≤ reads) :
    ∃ frames, frames = lines.filterMap Transmission.frame? ∧
      (sender.run (List.replicate frames.length (.work (.write outlet)))).written outlet =
        sender.written outlet ++ frames.flatMap writeLine ∧
      receiver.noted Console.dispatched
        (events ++ List.replicate reads (.work (.read inlet))) = frames ∧
      ∀ (now : Console) (frame : Frame), now.dispatched (.work (.read inlet)) = [frame] →
        ∃ rest, now.apply (.work (.read inlet)) =
          (now.setWire inlet rest).apply (.frame frame) := by
  refine ⟨_, rfl, ?_, ?_, fun now frame => Console.apply_of_dispatched⟩
  · rw [Console.written, Console.run_writes sends heard accepted, List.flatMap_append,
      leaving_sent, Console.written]
  · have begins : receiver.Receives inlet (events.flatMap (Event.arriving inlet)) lines :=
      ⟨receiving, receives, opened, by rw [nothingYet, List.nil_append, arrived]⟩
    obtain ⟨taken, rest, rfl, brought, left⟩ := Console.run_receives proper onStream begins
    have restProper : ∀ line ∈ rest, line.IsProper := fun line member =>
      proper line (List.mem_append_right taken member)
    have few : rest.length ≤ reads := by
      rw [List.length_append] at enough
      omega
    rw [Console.noted_append, brought, Console.run_reads restProper left few,
      List.filterMap_append]

/-- A call and an answer, with a blank line and one that is no frame between them. -/
def someLines : List Transmission :=
  [.frame (.call 18446744073709551615 "say \"é\"\n" [.arr [.str "\x07\\"], .int (-1)]),
    .noise [' ', '\r'], .noise ['n', 'o', 't', ' ', 'j', 's', 'o', 'n'],
    .frame (.response 3 (.obj [("k", .null)]))]

/-- A console that serves a byte stream. -/
def Console.onWire (outbound : List Frame) : Console :=
  { Console.bare ⟨2, 20⟩ with channels := [.wire { Wire.fresh 1 with outbound }] }

/-- The lines arrive in two pieces, and are read as soon as there is something to read. -/
theorem wire_round_trip_pieces :
    let bytes := someLines.flatMap Transmission.bytes
    let frames := someLines.filterMap Transmission.frame?
    (∀ line ∈ someLines, line.IsProper) ∧
      ((Console.onWire frames).run (List.replicate frames.length (.work (.write 0)))).written 0 =
        frames.flatMap writeLine ∧
      (Console.onWire []).noted Console.dispatched
        ([.remoteWrites 0 (bytes.take 9), .work (.read 0), .remoteWrites 0 (bytes.drop 9)] ++
          List.replicate 4 (.work (.read 0))) = frames := by
  intro bytes frames
  have proper : ∀ line ∈ someLines, line.IsProper := by
    simp only [someLines, List.forall_mem_cons, List.not_mem_nil, false_implies, implies_true,
      and_true]
    exact ⟨.frame rfl rfl, .blank (by decide) rfl, .noFrame (by decide) (by decide), .frame rfl rfl⟩
  have sends : (Console.onWire frames).servedWire? 0 =
      some { Wire.fresh 1 with outbound := frames } := rfl
  have receives : (Console.onWire []).servedWire? 0 = some (Wire.fresh 1) := rfl
  have onStream : ∀ event ∈ [Event.remoteWrites 0 (bytes.take 9), .work (.read 0),
      .remoteWrites 0 (bytes.drop 9)], event.OnStream 0 := by
    simp only [List.forall_mem_cons, List.not_mem_nil, false_implies, implies_true, and_true]
    exact ⟨.arrives _, .reads, .arrives _⟩
  have arrived : [Event.remoteWrites 0 (bytes.take 9), .work (.read 0),
      .remoteWrites 0 (bytes.drop 9)].flatMap (Event.arriving 0) = bytes := by
    simp [Event.arriving]
  obtain ⟨_, rfl, written, brought, -⟩ := wire_round_trip proper sends rfl rfl receives rfl rfl
    onStream arrived (Nat.le_refl 4)
  exact ⟨proper, written, brought⟩

end RuntimeConsole
