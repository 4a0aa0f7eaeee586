/-
Module: RuntimeConsole.Proofs.CursorQuestions
Purpose: Before the position of the cursor is reported the attributes of the screen are ended,
  and with them whatever sequence or character the process is in the middle of.
Main exports:
  ControlDecoder.Alike, Display.feed_reset, CursorQuestion, cursor_questions
-/
import RuntimeConsole.Proofs.ReachableScreens
import RuntimeConsole.Proofs.RequestService
import RuntimeConsole.Proofs.ScreenCharacters
import RuntimeConsole.Proofs.ShownOutput

namespace RuntimeConsole

namespace ControlState

/-- Whether it matters which parameters have been read. -/
def keepsParameters : ControlState → Bool
  | .controlEntry | .controlParameter | .controlIntermediate => true
  | _ => false

/-- Whether a sequence is under way, a character of several bytes apart. -/
def inSequence : ControlState → Bool
  | .ground | .character .. => false
  | _ => true

end ControlState

namespace ControlDecoder

/-! ### Decoders that cannot be told apart -/

/-- Two decoders differ at most in parameters that will never be looked at. -/
structure Alike (one other : ControlDecoder) : Prop where
  state : one.state = other.state
  same : one.state.keepsParameters = true → one = other

/-- Two decoders have read a byte alike. -/
structure Agree (one other : ControlDecoder × List Instruction) : Prop where
  decoder : Alike one.1 other.1
  told : one.2 = other.2

section

variable {one other decoder : ControlDecoder} {byte : UInt8} {condition : Prop}
  [Decidable condition]

theorem Alike.refl (decoder : ControlDecoder) : Alike decoder decoder := ⟨rfl, fun _ => rfl⟩

theorem Alike.of_state (state : one.state = other.state)
    (forgets : one.state.keepsParameters = false) : Alike one other :=
  ⟨state, fun keeps => absurd (forgets.symm.trans keeps) Bool.false_ne_true⟩

theorem Alike.ite {first second first' second' : ControlDecoder} (holds : Alike first first')
    (fails : Alike second second') :
    Alike (if condition then first else second) (if condition then first' else second') := by
  split
  · exact holds
  · exact fails

theorem Agree.ite {first second first' second' : ControlDecoder × List Instruction}
    (holds : Agree first first') (fails : Agree second second') :
    Agree (if condition then first else second) (if condition then first' else second') := by
  split
  · exact holds
  · exact fails

/-- In a state that looks at no parameters a byte is read alike whatever they are. -/
theorem stepState_agree {state : ControlState} (forgets : state.keepsParameters = false)
    (parameters parameters' : Parameters) (marked marked' : Bool) (byte : UInt8) :
    Agree (stepState ⟨state, parameters, marked⟩ byte)
      (stepState ⟨state, parameters', marked'⟩ byte) := by
  have stays : Alike ⟨state, parameters, marked⟩ ⟨state, parameters', marked'⟩ :=
    .of_state rfl forgets
  cases state with
  | ground =>
      refine .ite ⟨stays, rfl⟩ (.ite ⟨stays, rfl⟩ ?_)
      cases Text.lead? byte with
      | none => exact ⟨stays, rfl⟩
      | some lead => exact ⟨.of_state rfl rfl, rfl⟩
  | character bits following low high =>
      exact .ite (.ite ⟨.of_state rfl rfl, rfl⟩ ⟨.of_state rfl rfl, rfl⟩) ⟨.of_state rfl rfl, rfl⟩
  | escape =>
      exact .ite ⟨stays, rfl⟩ (.ite ⟨.of_state rfl rfl, rfl⟩ (.ite ⟨.refl _, rfl⟩
        (.ite ⟨.of_state rfl rfl, rfl⟩ (.ite ⟨.refl _, rfl⟩ (.ite ⟨.of_state rfl rfl, rfl⟩
          (.ite ⟨.of_state rfl rfl, rfl⟩ ⟨stays, rfl⟩))))))
  | escapeIntermediate | controlIgnored =>
      exact .ite ⟨stays, rfl⟩ (.ite ⟨.of_state rfl rfl, rfl⟩ ⟨stays, rfl⟩)
  | controlEntry | controlParameter | controlIntermediate => cases forgets
  | deviceEntry | deviceParameter | deviceIntermediate =>
      exact ⟨.ite (.of_state rfl rfl) (.ite (.of_state rfl rfl)
        (.ite (.ite (.of_state rfl rfl) (.ite (.of_state rfl rfl) (.of_state rfl rfl))) stays)),
        rfl⟩
  | deviceBody | otherString | systemString => exact ⟨.ite (.of_state rfl rfl) stays, rfl⟩

theorem Alike.step (alike : Alike one other) (byte : UInt8) :
    Agree (one.step byte) (other.step byte) := by
  by_cases keeps : one.state.keepsParameters = true
  · obtain rfl := alike.same keeps
    exact ⟨.refl _, rfl⟩
  · obtain ⟨state, parameters, marked⟩ := one
    obtain ⟨_, parameters', marked'⟩ := other
    obtain rfl := alike.state
    have inner := stepState_agree (Bool.not_eq_true _ ▸ keeps) parameters parameters' marked marked'
      byte
    exact .ite inner (.ite ⟨.of_state rfl rfl, rfl⟩ (.ite ⟨.refl _, rfl⟩ inner))

/-! ### Bytes that mean nothing inside a sequence -/

theorem inSequence_of_outside (busy : decoder.state ≠ .ground)
    (outside : decoder.insideCharacter = false) : decoder.state.inSequence = true := by
  unfold insideCharacter at outside
  unfold ControlState.inSequence
  split
  next ground => exact absurd ground busy
  next inside => simp [inside] at outside
  next => rfl

theorem outside_of_inSequence (begun : decoder.state.inSequence = true) :
    decoder.insideCharacter = false := by
  unfold insideCharacter
  split
  next inside => simp [inside, ControlState.inSequence] at begun
  next => rfl

/-- Whether a byte means nothing inside of a sequence: it is beyond the characters of ASCII and
ends no string. -/
def isPassed (byte : UInt8) : Bool :=
  decide (0x7F ≤ byte.toNat) && byte != 0x9C

theorem step_passed (begun : decoder.state.inSequence = true) (passed : isPassed byte = true) :
    decoder.step byte = (decoder, []) := by
  obtain ⟨large, other⟩ : 0x7F ≤ byte.toNat ∧ byte ≠ 0x9C := by simpa [isPassed] using passed
  have apart (low : UInt8) (small : low.toNat < 0x7F) : byte ≠ low := by
    rintro rfl
    omega
  have beyond (low high : UInt8) (small : high.toNat < 0x7F) : within low high byte = false := by
    rw [within, Bool.and_eq_false_iff]
    refine .inr (decide_eq_false fun below => ?_)
    have := UInt8.le_iff_toNat_le.mp below
    omega
  have visible : isControl byte = false := by
    refine decide_eq_false fun below => ?_
    have := UInt8.lt_iff_toNat_lt.mp below
    have : (0x20 : UInt8).toNat = 0x20 := rfl
    omega
  have outside : decoder.insideCharacter = false := outside_of_inSequence begun
  rw [step_outside outside (apart 0x18 (by decide)) (apart 0x1A (by decide))
    (apart 0x1B (by decide)), stepState]
  cases state : decoder.state with
  | ground | character => simp [state, ControlState.inSequence] at begun
  | escape => simp [stepEscape, visible, beyond, apart]
  | escapeIntermediate => simp [stepEscapeIntermediate, visible, beyond]
  | controlEntry | controlParameter | controlIntermediate => simp [stepControl, visible, beyond]
  | controlIgnored => simp [stepControlIgnored, visible, beyond]
  | deviceEntry | deviceParameter | deviceIntermediate => simp [stepDevice, beyond]
  | deviceBody | otherString => simp [other]
  | systemString => simp [apart]

end

end ControlDecoder

namespace Display

variable {one other display : Display}

theorem feed_alike (alike : ControlDecoder.Alike one.decoder other.decoder)
    (grid : one.grid = other.grid) (bytes : List UInt8) :
    (one.feed bytes).grid = (other.feed bytes).grid := by
  induction bytes generalizing one other with
  | nil => exact grid
  | cons byte bytes inductionHypothesis =>
      obtain ⟨decoder, told⟩ := alike.step byte
      refine inductionHypothesis decoder ?_
      change (one.decoder.step byte).2.foldl Grid.perform one.grid =
        (other.decoder.step byte).2.foldl Grid.perform other.grid
      rw [told, grid]

/-- Outside of sequences it does not matter what has been read before. -/
theorem feed_ground (first : one.decoder.state = .ground) (second : other.decoder.state = .ground)
    (grid : one.grid = other.grid) (bytes : List UInt8) :
    (one.feed bytes).grid = (other.feed bytes).grid :=
  feed_alike (.of_state (first.trans second.symm) (by rw [first]; rfl)) grid bytes

theorem feed_passed (begun : display.decoder.state.inSequence = true) {bytes : List UInt8}
    (passed : bytes.all ControlDecoder.isPassed = true) : display.feed bytes = display := by
  refine feed_of_kept fun byte member => ?_
  rw [feedByte, ControlDecoder.step_passed begun (List.all_eq_true.mp passed byte member)]
  rfl

/-- Between a display outside of sequences and one inside, some letter makes a difference. -/
theorem letter_differs (ground : one.decoder.state = .ground) (shaped : one.grid.Shaped)
    (fits : one.grid.CursorFits) (begun : other.decoder.state.inSequence = true) :
    ∃ c, (one.feed (Text.encodeChar c)).grid.rows ≠ (other.feed (Text.encodeChar c)).grid.rows := by
  by_contra! same
  have shown (c : Char) (visible : 0x20 ≤ c.toNat)
      (passed : (Text.encodeChar c).all ControlDecoder.isPassed = true) :
      (one.grid.put c).rows = other.grid.rows := by
    have := same c
    rwa [feed_encodeChar ground visible, feed_passed begun passed] at this
  have acute := shown 'é' (by decide) (by decide)
  have grave := shown 'è' (by decide) (by decide)
  exact Grid.put_differs shaped fits (by decide) (acute.trans grave.symm)

/-! ### The end of the attributes -/

/-- The cells after the attributes have been ended.  In the middle of a character this is
shown. -/
def resetGrid (display : Display) : Grid :=
  if display.decoder.insideCharacter then
    (((display.grid.put Text.replacementChar).put '[').put '0').put 'm'
  else display.grid

theorem feedByte_escape (outside : display.decoder.insideCharacter = false) :
    display.feedByte 0x1B = ⟨.begin_ .escape, display.grid⟩ := by
  simp [feedByte, ControlDecoder.step, outside]

/-- The escape character cannot belong to a character of several bytes, so both are lost. -/
theorem feedByte_severed (sound : display.Sound) (inside : display.decoder.insideCharacter = true) :
    display.feedByte 0x1B =
      ⟨display.decoder.enter .ground, display.grid.put Text.replacementChar⟩ := by
  have proper := sound.decoder
  cases state : display.decoder.state with
  | character bits following low high =>
      rw [state] at proper
      have above : ¬ (low ≤ (0x1B : UInt8).toNat ∧ (0x1B : UInt8).toNat ≤ high) := fun member =>
        absurd (Nat.le_trans proper.1 member.1) (by decide)
      rw [feedByte, ControlDecoder.step_inside state, ControlDecoder.stepCharacter, if_neg above]
      rfl
  | _ => simp [ControlDecoder.insideCharacter, state] at inside

/-- The end of the attributes ends whatever is under way. -/
theorem feed_reset (sound : display.Sound) :
    (display.feed (Text.encode Console.cursorReset.toList)).decoder.state = .ground ∧
      (display.feed (Text.encode Console.cursorReset.toList)).grid = display.resetGrid := by
  have bytes : Text.encode Console.cursorReset.toList =
      0x1B :: (Text.encodeChar '[' ++ (Text.encodeChar '0' ++ Text.encodeChar 'm')) := by decide
  rw [bytes, feed_cons, resetGrid]
  cases inside : display.decoder.insideCharacter with
  | false =>
      rw [feedByte_escape inside]
      exact ⟨rfl, rfl⟩
  | true =>
      rw [feedByte_severed sound inside, feed_append, feed_append, feed_encodeChar rfl (by decide),
        feed_encodeChar rfl (by decide), feed_encodeChar rfl (by decide), if_pos rfl]
      dsimp only
      exact ⟨rfl, rfl⟩

/-- The end of the attributes makes a difference to what is shown afterwards wherever something
is under way. -/
theorem reset_differs (sound : display.Sound) (fits : display.grid.CursorFits)
    (busy : display.decoder.state ≠ .ground) :
    ∃ bytes, ((display.feed (Text.encode Console.cursorReset.toList)).feed bytes).grid.rows ≠
      (display.feed bytes).grid.rows := by
  obtain ⟨ground, grid⟩ := feed_reset sound
  generalize display.feed (Text.encode Console.cursorReset.toList) = reset at ground grid ⊢
  cases inside : display.decoder.insideCharacter with
  | false =>
      have begun := ControlDecoder.inSequence_of_outside busy inside
      rw [resetGrid, if_neg (by simp [inside])] at grid
      obtain ⟨c, differs⟩ := letter_differs ground (grid ▸ sound.shaped) (grid ▸ fits) begun
      exact ⟨_, differs⟩
  | true =>
      -- What begins a string after the reset is shown where the character was under way.
      have severed : display.feed (0x1B :: Text.encodeChar ']') =
          ⟨display.decoder.enter .ground, (display.grid.put Text.replacementChar).put ']'⟩ := by
        rw [feed_cons, feedByte_severed sound inside, feed_encodeChar rfl (by decide)]
      have begun : (reset.feed (0x1B :: Text.encodeChar ']')).decoder.state.inSequence = true := by
        rw [feed_cons, feedByte_escape (by rw [ControlDecoder.insideCharacter, ground])]
        rfl
      have keeps := (display.grid.put_keeps Text.replacementChar).trans (Grid.put_keeps _ ']')
      have parted : (display.feed (0x1B :: Text.encodeChar ']')).decoder.state = .ground := by
        rw [severed]
        rfl
      obtain ⟨c, differs⟩ := letter_differs parted (severed ▸ keeps.shaped sound.shaped)
        (severed ▸ keeps.fits fits) begun
      rw [← feed_append, ← feed_append] at differs
      exact ⟨_, differs.symm⟩

end Display

open Console in
/-- What becomes of the screen when the runtime asks for the position of the cursor after some of
its output has been shown, compared with the screen that shows all of the output without that. -/
structure CursorQuestion (console : Console) (source : Nat) (question : Event)
    (earlier : List Event) : Prop where
  /-- From the question on, output is shown as if nothing had been under way. -/
  forgotten : ∀ later : List Event, (∀ event ∈ later, event.isOutput = true) →
    (((console.run (earlier ++ [.pump])).apply question).screenAfter later).grid =
      ((Display.ofGrid (console.screenAfter earlier).resetGrid).feed
        (later.flatMap (Event.printedTo source))).grid
  /-- Outside of sequences the question makes no difference to any cell, to what has scrolled off
  the screen or to the cursor. -/
  undisturbed : (console.screenAfter earlier).decoder.state = .ground →
    ∀ later : List Event, (∀ event ∈ later, event.isOutput = true) →
      (((console.run (earlier ++ [.pump])).apply question).screenAfter later).grid =
        (console.screenAfter (earlier ++ later)).grid
  /-- In the middle of a sequence or of a character it does, if the cursor is on the screen. -/
  disturbed : (console.screenAfter earlier).decoder.state ≠ .ground →
    (console.screenAfter earlier).grid.CursorFits →
      ∃ later : List Event, (∀ event ∈ later, event.isOutput = true) ∧
        (((console.run (earlier ++ [.pump])).apply question).screenAfter later).grid.rows ≠
          (console.screenAfter (earlier ++ later)).grid.rows

namespace Console

variable {parts : ConsoleParts} {start console : Console} {source : Nat}
  {events : List ConsoleEvent}

/-- A handler is there until the embedding program serves the requests itself. -/
theorem handler?_kept (activated : activate? parts = some start) (name : String)
    (unserved : ∀ label sends reply, .serves name label sends reply ∉ events) :
    (start.undergoAll events).client.handler? name = start.client.handler? name := by
  induction events using List.reverseRecOn with
  | nil => rfl
  | append_singleton events event inductionHypothesis =>
      have before := inductionHypothesis fun label sends reply member =>
        unserved label sends reply (List.mem_append_left _ member)
      rw [undergoAll_concat, ← before]
      by_cases registration : ∃ other label sends reply, event = .serves other label sends reply
      · obtain ⟨other, label, sends, reply, rfl⟩ := registration
        have apart : name ≠ other := by
          rintro rfl
          exact unserved label sends reply (by simp)
        exact congrArg (Option.map Prod.snd)
          ((Client.lookup_setHandler other _ name).trans (if_neg apart))
      · have handlers : ((start.undergoAll events).undergo event).client.handlers =
            (start.undergoAll events).client.handlers :=
          (upkept_reachable activated events).handlers_step
            fun other label sends reply same => registration ⟨other, label, sends, reply, same⟩
        rw [Client.handler?, Client.handler?, handlers]

theorem cursor_handled (activated : activate? parts = some start)
    (unserved : ∀ label sends reply, .serves "cursorpos" label sends reply ∉ events) :
    (start.undergoAll events).client.handler? "cursorpos" = some .reportCursor := by
  rw [handler?_kept activated "cursorpos" unserved, Client.handler?,
    (activated_handlers activated).1, furnished_handlers]
  rfl

theorem asked_screen (reads : Reads source [] console) (id : Nat) (args : List Json)
    (handled : console.client.handler? "cursorpos" = some .reportCursor) {later : List Event}
    (outputs : ∀ event ∈ later, event.isOutput = true) :
    (console.apply (.frame (.call id "cursorpos" args))).screenAfter later =
      (console.terminal.display.feed (Text.encode cursorReset.toList)).feed
        (later.flatMap (Event.printedTo source)) := by
  have asked := reads.of_changes (console.handleFrame_changes (.call id "cursorpos" args))
    (by decide)
  have reset : (console.handleFrame (.call id "cursorpos" args)).terminal.display =
      console.terminal.display.feed (Text.encode cursorReset.toList) := by
    rw [handleFrame_display, frameActs, handled]
    rfl
  rw [apply, asked.shown outputs, reset, List.nil_append]

end Console

open Console in
/-- The position of the cursor is asked for while the runtime prints, over every run of an
activated console in which the embedding program does not answer itself, and however printing and
showing alternate. -/
theorem cursor_questions (parts : ConsoleParts) (start : Console) (events : List ConsoleEvent)
    (source : Nat) (waiting : List UInt8) (id : Nat) (args : List Json) (earlier : List Event)
    (activated : activate? parts = some start)
    (reads : Reads source waiting (start.undergoAll events))
    (unserved : ∀ label sends reply, .serves "cursorpos" label sends reply ∉ events)
    (outputs : ∀ event ∈ earlier, event.isOutput = true) :
    CursorQuestion (start.undergoAll events) source (.frame (.call id "cursorpos" args))
      earlier := by
  have reachable := sound_reachable activated events
  have handled := cursor_handled activated unserved
  generalize start.undergoAll events = console at reads handled reachable ⊢
  have pumped := reads.settled outputs
  have still : (console.run (earlier ++ [.pump])).client.handler? "cursorpos" =
      some .reportCursor := by
    have ran : Changes _ console (console.run (earlier ++ [.pump])) :=
      output_changes (List.forall_mem_append.mpr ⟨outputs, by simp [Event.isOutput]⟩)
    have handlers : (console.run (earlier ++ [.pump])).client.handlers =
        console.client.handlers := ran.same .handlers (by decide)
    rwa [Client.handler?, handlers]
  have sound : (console.screenAfter earlier).Sound := by
    rw [reads.shown outputs]
    exact reachable.feed _
  obtain ⟨ground, grid⟩ := Display.feed_reset sound
  have whole {later : List Event} (others : ∀ event ∈ later, event.isOutput = true) :
      console.screenAfter (earlier ++ later) =
        (console.screenAfter earlier).feed (later.flatMap (Event.printedTo source)) := by
    rw [reads.shown (List.forall_mem_append.mpr ⟨outputs, others⟩), reads.shown outputs,
      ← Display.feed_append, List.flatMap_append, List.append_assoc]
  have asked {later : List Event} (others : ∀ event ∈ later, event.isOutput = true) :
      ((console.run (earlier ++ [.pump])).apply (.frame (.call id "cursorpos" args))).screenAfter
          later =
        ((console.screenAfter earlier).feed (Text.encode cursorReset.toList)).feed
          (later.flatMap (Event.printedTo source)) :=
    asked_screen pumped id args still others
  refine ⟨fun later others => ?_, fun clear later others => ?_, fun busy fits => ?_⟩
  · rw [asked others]
    exact Display.feed_ground ground rfl grid _
  · rw [asked others, whole others]
    refine Display.feed_ground ground clear (grid.trans ?_) _
    rw [Display.resetGrid, ControlDecoder.insideCharacter, clear]
    rfl
  · obtain ⟨bytes, differs⟩ := Display.reset_differs sound fits busy
    have printed : [Event.print source bytes].flatMap (Event.printedTo source) = bytes := by
      simp [Event.printedTo]
    refine ⟨[.print source bytes], by simp [Event.isOutput], ?_⟩
    rwa [asked (by simp [Event.isOutput]), whole (by simp [Event.isOutput]), printed]

/-- The runtime has begun to set a colour when it asks, and the rest of the sequence is shown as
if it were text. -/
theorem cursor_questions_severed :
    let parts : ConsoleParts := ⟨.standard "sh", Host.permissive, none, false, []⟩
    let start := Console.wired parts
    let events := [ConsoleEvent.event (.connect ⟨.fresh .none, none, false⟩)]
    let question := Event.frame (.call 9 "cursorpos" [])
    let earlier := [Event.print 0 (Text.encode "ab\x1b[".toList)]
    let later := [Event.print 0 (Text.encode "31mcd".toList)]
    let console := start.undergoAll events
    let asked := ((console.run (earlier ++ [.pump])).apply question).screenAfter later
    let whole := console.screenAfter (earlier ++ later)
    Console.activate? parts = some start ∧ CursorQuestion console 0 question earlier ∧
      asked.grid.charAt? 1 2 = some '3' ∧ whole.grid.charAt? 1 2 = some 'c' := by
  intro parts start events question earlier later console asked whole
  have activated : Console.activate? parts = some start := rfl
  have reads : Console.Reads 0 [] console := {
    attached := by decide +kernel
    stream := ⟨⟨[], [], some ⟨24, 80⟩, true, .none⟩, by decide +kernel, rfl, rfl⟩ }
  have compared : CursorQuestion console 0 question earlier :=
    cursor_questions parts start events 0 [] 9 [] earlier activated reads
      (by simp [events]) (by decide)
  exact ⟨activated, compared, by decide +kernel, by decide +kernel⟩

end RuntimeConsole
