/-
Module: RuntimeConsole.Proofs.EarlyOutput
Purpose: What a runtime printed before it connected is shown as a text, and what it prints later
  byte for byte: together they show what one piece would, unless a character was cut in two.
Main exports:
  Console.launched_reads, EarlyOutput, early_output
-/
import RuntimeConsole.Proofs.ReachableScreens
import RuntimeConsole.Proofs.ScreenCharacters
import RuntimeConsole.Proofs.ShownOutput

namespace RuntimeConsole

/-! ### Early output as a text -/

namespace Text

theorem decodeLossy_encode_append (text : List Char) (bytes : List UInt8) :
    decodeLossy (encode text ++ bytes) = text ++ decodeLossy bytes := by
  rw [decodeLossy, scan_encode_append, List.map_append, List.map_map]
  exact congrArg (· ++ decodeLossy bytes) (List.map_id text)

theorem decodeLossy_encode (text : List Char) : decodeLossy (encode text) = text := by
  have whole := decodeLossy_encode_append text []
  rw [List.append_nil] at whole
  exact whole.trans (List.append_nil text)

/-- The beginning of a character is replaced. -/
theorem decodeLossy_beginning {c : Char} {head tail : List UInt8}
    (encoded : encodeChar c = head ++ tail) (some : head ≠ []) (missing : tail ≠ []) :
    decodeLossy head = [replacementChar] := by
  rw [decodeLossy, scan_beginning encoded some missing]
  rfl

/-- A byte that begins no character is replaced. -/
theorem decodeLossy_lost {byte : UInt8} (lost : isLost byte = true) :
    decodeLossy [byte] = [replacementChar] := by
  rw [decodeLossy, scan, (isLost_iff.mp lost).2]
  rfl

theorem encode_append (first second : List Char) :
    encode (first ++ second) = encode first ++ encode second :=
  List.flatMap_append

theorem encode_concat (text : List Char) (c : Char) :
    encode (text ++ [c]) = encode text ++ encodeChar c := by
  rw [encode_append]
  exact congrArg (encode text ++ ·) (List.append_nil _)

/-- No control character can be divided. -/
theorem visible_of_divided {c : Char} {head tail : List UInt8}
    (encoded : encodeChar c = head ++ tail) (some : head ≠ []) (missing : tail ≠ []) :
    0x20 ≤ c.toNat := by
  by_contra control
  have one : (head ++ tail).length = 1 := by
    rw [← encoded, encodeChar, if_pos (by omega), List.length_singleton]
  have first := List.length_pos_iff.mpr some
  have second := List.length_pos_iff.mpr missing
  rw [List.length_append] at one
  omega

theorem replacementChar_visible : 0x20 ≤ replacementChar.toNat := by decide

end Text

/-! ### Screens after a text -/

namespace Display

variable {display : Display} {text : List Char}

/-- Outside of sequences a character is put after a text. -/
theorem feed_encode_concat (ground : (display.feed (Text.encode text)).decoder.state = .ground)
    {c : Char} (visible : 0x20 ≤ c.toNat) :
    display.feed (Text.encode (text ++ [c])) =
      { display.feed (Text.encode text) with
        grid := (display.feed (Text.encode text)).grid.put c } := by
  rw [Text.encode_concat, feed_append, feed_encodeChar ground visible]

/-- Bytes that begin no character are passed over after a replaced one. -/
theorem feed_replaced (ground : (display.feed (Text.encode text)).decoder.state = .ground)
    {lost : List UInt8} (passed : ∀ byte ∈ lost, Text.isLost byte = true) (more : List UInt8) :
    display.feed (Text.encode (text ++ [Text.replacementChar]) ++ (lost ++ more)) =
      display.feed (Text.encode (text ++ [Text.replacementChar]) ++ more) := by
  have after : (display.feed
      (Text.encode (text ++ [Text.replacementChar]))).decoder.state = .ground := by
    rw [feed_encode_concat ground Text.replacementChar_visible]
    exact ground
  rw [feed_append, feed_append, feed_lost after passed, feed_append]

end Display

namespace Console

theorem foldl_earlyPieces (display : Display) (bytes : List UInt8) :
    ((earlyPieces bytes).map ScreenAct.text).foldl ScreenAct.on display =
      display.feed (Text.encode (Text.decodeLossy bytes)) := by
  unfold earlyPieces
  split
  next none =>
      rw [List.isEmpty_iff.mp none]
      rfl
  next =>
      change display.feed (Text.encode (String.ofList _).toList) = _
      rw [String.toList_ofList]

/-! ### A command that connects -/

/-- The screen a process finds when it connects.  A connection there was has ended. -/
def arrivalDisplay (console : Console) : Display :=
  console.disconnectActs.foldl ScreenAct.on console.terminal.display

section

variable {base before : Console} {id : Nat} {launch : Launch} {stream : ProcessStream}

/-- What the runtime printed before it connected has been shown as a text, after what was on the
screen, and the terminal shows what it prints from now on. -/
theorem launched_reads (fresh : Fresh base) (settled : Settled base before)
    (nobody : base.client.bootObservers.any (fun entry => entry.2.takesEarly) = false)
    (known : before.launches[id]? = some launch) (awaited : launch.awaited = true)
    (found : before.stream? launch.stream = some stream) (readable : stream.faults.read = none) :
    Reads launch.stream [] (before.apply (.launched id)) ∧
      (before.apply (.launched id)).terminal.display =
        before.arrivalDisplay.feed (Text.encode (Text.decodeLossy stream.output)) := by
  have closed := before.closeLaunch_changes id launch
  have there : (before.closeLaunch id launch).stream? launch.stream = some stream := found
  have read := (before.closeLaunch id launch).readStream_changes launch.stream
  have left := stream?_drained there
  have reached : before.apply (.launched id) =
      (((before.closeLaunch id launch).readStream launch.stream).1.connect
        ⟨.running launch.stream, some (earlyPieces stream.output), true⟩).1 := by
    change (before.launchConnects id).1 = _
    simp only [launchConnects, known, awaited, if_true, readStream_readable there readable]
    rfl
  rw [readStream_readable there readable] at read reached
  dsimp only at read reached
  generalize (before.closeLaunch id launch).setStream launch.stream { stream with output := [] } =
    ready at read reached left
  have readied : Changes [.launches, .streams] before ready := closed.andThen read (by decide)
  have readySettled := settled.of_changes readied (by decide)
  obtain ⟨connected, opening⟩ := connectWithin_opening fresh readySettled.steady
    readySettled.place ⟨.running launch.stream, some (earlyPieces stream.output), true⟩ 97
  obtain ⟨attached, sized, shown, output, faults⟩ := opening.readable _ _ rfl left
  obtain ⟨-, -, -, begun⟩ := beginCycle_bound opening.cycle opening.wiring
  rw [reached, connect, nestingLimit, connected]
  refine ⟨?_, ?_⟩
  · exact Reads.of_changes ⟨attached, sized, shown, faults ▸ readable, output⟩ begun (by decide)
  · have still : ready.terminal.display = before.terminal.display :=
      readied.same .display (by decide)
    refine (begun.same .display (by decide)).trans (opening.display.trans ?_)
    rw [connectActs_of_changes readied (by decide), still, connectActs,
      takesEarly_of_steady settled.steady, nobody, if_neg Bool.false_ne_true, List.foldl_append,
      Option.getD_some, foldl_earlyPieces, arrivalDisplay]

end

end Console

/-! ### In two pieces and in one -/

/-- What a screen shows of output of which a first part was shown as a text when the process
connected, and the rest as it came. -/
structure EarlyOutput (arrival : Display) (early rest : List UInt8) (screen : Display) : Prop where
  /-- The first part has become a text before the screen shows it. -/
  shown : screen = arrival.feed (Text.encode (Text.decodeLossy early) ++ rest)
  /-- Where the first part is a text, nothing tells that there were two pieces, wherever a
  sequence was divided. -/
  transparent : ∀ text, early = Text.encode text → screen = arrival.feed (early ++ rest)
  /-- A character that was divided outside of sequences is replaced, and its last bytes are
  passed over. -/
  divided : ∀ text c head tail more, early = Text.encode text ++ head → rest = tail ++ more →
    Text.encodeChar c = head ++ tail → head ≠ [] → tail ≠ [] →
    (arrival.feed (Text.encode text)).decoder.state = .ground →
      screen = arrival.feed (Text.encode (text ++ [Text.replacementChar]) ++ more) ∧
      arrival.feed (early ++ rest) = arrival.feed (Text.encode (text ++ [c]) ++ more)
  /-- So the rows are others than in one piece, if the cursor is on the screen. -/
  differs : ∀ text c head, early = Text.encode text ++ head → Text.encodeChar c = head ++ rest →
    head ≠ [] → rest ≠ [] → c ≠ Text.replacementChar →
    (arrival.feed (Text.encode text)).decoder.state = .ground →
    (arrival.feed (Text.encode text)).grid.CursorFits →
      screen.grid.rows ≠ (arrival.feed (early ++ rest)).grid.rows
  /-- A byte that begins no character is replaced as well, although the screen passes it over
  in one piece. -/
  malformed : ∀ text byte, early = Text.encode text ++ [byte] → Text.isLost byte = true →
    (arrival.feed (Text.encode text)).decoder.state = .ground →
      screen = arrival.feed (Text.encode (text ++ [Text.replacementChar]) ++ rest) ∧
      arrival.feed (early ++ rest) = arrival.feed (Text.encode text ++ rest)

theorem earlyOutput_feed {arrival : Display} (sound : arrival.Sound) (early rest : List UInt8) :
    EarlyOutput arrival early rest
      (arrival.feed (Text.encode (Text.decodeLossy early) ++ rest)) := by
  have divided (text : List Char) (c : Char) (head tail more : List UInt8)
      (encoded : Text.encodeChar c = head ++ tail) (some : head ≠ []) (missing : tail ≠ [])
      (ground : (arrival.feed (Text.encode text)).decoder.state = .ground) :
      arrival.feed (Text.encode (Text.decodeLossy (Text.encode text ++ head)) ++ (tail ++ more)) =
          arrival.feed (Text.encode (text ++ [Text.replacementChar]) ++ more) ∧
        arrival.feed (Text.encode text ++ head ++ (tail ++ more)) =
          arrival.feed (Text.encode (text ++ [c]) ++ more) := by
    rw [Text.decodeLossy_encode_append, Text.decodeLossy_beginning encoded some missing]
    refine ⟨Display.feed_replaced ground (Text.tail_lost encoded some) more, ?_⟩
    rw [Text.encode_concat, encoded]
    simp only [List.append_assoc]
  refine ⟨rfl, ?_, ?_, ?_, ?_⟩
  · rintro text rfl
    rw [Text.decodeLossy_encode]
  · rintro text c head tail more rfl rfl encoded some missing ground
    exact divided text c head tail more encoded some missing ground
  · rintro text c head rfl encoded some missing other ground fits
    obtain ⟨parted, whole⟩ := divided text c head rest [] encoded some missing ground
    rw [List.append_nil, List.append_nil] at parted whole
    rw [parted, whole, Display.feed_encode_concat ground Text.replacementChar_visible,
      Display.feed_encode_concat ground (Text.visible_of_divided encoded some missing)]
    exact Grid.put_differs (sound.feed (Text.encode text)).shaped fits other.symm
  · rintro text byte rfl lost ground
    rw [Text.decodeLossy_encode_append, Text.decodeLossy_lost lost]
    refine ⟨rfl, ?_⟩
    rw [Display.feed_append, Display.feed_append,
      Display.feed_lost ground (by simpa using lost), ← Display.feed_append]

open Console in
/-- Output of which a part was printed before a launched command connects, over every run of an
activated console and however printing and showing alternate afterwards. -/
theorem early_output (parts : ConsoleParts) (start : Console) (events : List ConsoleEvent)
    (id : Nat) (launch : Launch) (stream : ProcessStream) (later : List Event)
    (activated : activate? parts = some start)
    (known : (start.undergoAll events).launches[id]? = some launch)
    (awaited : launch.awaited = true)
    (found : (start.undergoAll events).stream? launch.stream = some stream)
    (readable : stream.faults.read = none)
    (outputs : ∀ event ∈ later, event.isOutput = true) :
    EarlyOutput
      (start.undergoAll events).arrivalDisplay stream.output
      (later.flatMap (Event.printedTo launch.stream))
      (((start.undergoAll events).apply (.launched id)).screenAfter later) := by
  have settled := (upkept_reachable activated events).settled
  have nobody : (furnished parts).client.bootObservers.any
      (fun entry => entry.2.takesEarly) = false := by
    rw [(furnished_observers parts).1]
    rfl
  obtain ⟨reads, screen⟩ := launched_reads (furnished_fresh parts) settled nobody known awaited
    found readable
  rw [reads.shown outputs, screen, ← Display.feed_append]
  exact earlyOutput_feed ((sound_reachable activated events).acts _) _ _

/-- A console without auxiliary terminals that starts the runtime with a command. -/
def launchingParts : ConsoleParts :=
  ⟨.standard "sh", Host.permissive, some ⟨.null, .launches "julia" 1000⟩, false, []⟩

/-- The runtime connects after the first of the two bytes of a letter.  The user never sees the
letter, which in one piece is shown. -/
theorem early_output_divided :
    let start := Console.wired launchingParts
    let events := [ConsoleEvent.event .start,
      .event (.print 0 (Text.encode ['a'] ++ [0xC3]))]
    let later := [Event.print 0 [0xA9]]
    let arrival := (start.undergoAll events).arrivalDisplay
    let screen := ((start.undergoAll events).apply (.launched 0)).screenAfter later
    Console.activate? launchingParts = some start ∧
      EarlyOutput arrival (Text.encode ['a'] ++ [0xC3]) [0xA9] screen ∧
      screen.grid.charAt? 2 1 = some Text.replacementChar ∧
      screen.grid.rows ≠ (arrival.feed (Text.encode ['a'] ++ [0xC3] ++ [0xA9])).grid.rows := by
  intro start events later arrival screen
  have activated : Console.activate? launchingParts = some start := rfl
  have general := early_output launchingParts start events 0 ⟨"julia", 0, 1000, 1000, true⟩
    ((ProcessStream.fresh .none).print (Text.encode ['a'] ++ [0xC3])) later activated
    (by decide +kernel) rfl (by decide +kernel) rfl (by decide)
  have early : EarlyOutput arrival (Text.encode ['a'] ++ [0xC3]) [0xA9] screen := general
  have fits : (arrival.feed (Text.encode ['a'])).grid.CursorFits :=
    ⟨by decide +kernel, by decide +kernel⟩
  refine ⟨activated, early, by decide +kernel, ?_⟩
  exact early.differs ['a'] 'é' [0xC3] rfl (by decide) (by decide) (by decide) (by decide)
    (by decide +kernel) fits

end RuntimeConsole
