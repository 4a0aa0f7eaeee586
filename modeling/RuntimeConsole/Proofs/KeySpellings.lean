/-
Module: RuntimeConsole.Proofs.KeySpellings
Purpose: Which spellings of a keystroke a list honours: lists know the written forms of key
  events in any case, and no other spelling of them.
Main exports:
  KeyEvent.IsNormal, lowerString_eq_keystroke_iff, spellings_honoured
-/
import RuntimeConsole.Proofs.KeyRouting
import RuntimeConsole.Proofs.KeystrokeNormalForm

namespace RuntimeConsole

namespace KeyEvent

/-- Keystrokes that are the written form of the event they are read as. -/
def IsNormal (text : String) : Prop :=
  ∃ event, parse text = .ok event ∧ event.keystroke = text

/-- A keystroke is the written form of what it is read as, up to case, if it is normal up to
case. -/
theorem lowerString_eq_keystroke_iff {spelled : String} {event : KeyEvent}
    (read : parse spelled = .ok event) :
    AllowList.lowerString spelled = event.keystroke ↔ IsNormal (AllowList.lowerString spelled) := by
  have again : parse (AllowList.lowerString spelled) = .ok event :=
    (parse_lowerString spelled event).mpr read
  constructor
  · exact fun same => ⟨event, again, same.symm⟩
  · rintro ⟨other, readOther, same⟩
    rw [again, Except.ok.injEq] at readOther
    rw [readOther, same]

/-- Keystrokes are read alike if they differ in case only. -/
theorem parse_of_lowerString_eq {spelled other : String} {event : KeyEvent}
    (same : AllowList.lowerString other = AllowList.lowerString spelled)
    (read : parse spelled = .ok event) : parse other = .ok event := by
  rw [← parse_lowerString, same, parse_lowerString]
  exact read

end KeyEvent

theorem AllowLists.admits_eq_false {lists : AllowLists} {kind : TerminalClass}
    {keystrokes : List String} (configured : lists.get kind = .ofList keystrokes)
    (event : KeyEvent) :
    lists.admits kind event = false ↔
      ∃ keystroke ∈ keystrokes, AllowList.lowerString keystroke = event.keystroke := by
  rw [← AllowList.verdict_ofList, admits, configured]
  cases (AllowList.ofList keystrokes).verdict event.keystroke <;> decide

/-- What lists make of the key event a keystroke is read as.  It is the same in any case.  A list
leaves the event to the editor if and only if it contains the written form of the event, in any
case; so it honours every spelling on it that is normal up to case, and a list of one spelling
honours no other.  A terminal that is guarded by such a list forwards the event accordingly. -/
theorem spellings_honoured {spelled : String} {event : KeyEvent}
    (read : KeyEvent.parse spelled = .ok event) :
    (∀ other, AllowList.lowerString other = AllowList.lowerString spelled →
      KeyEvent.parse other = .ok event) ∧
    ∀ (lists : AllowLists) (kind : TerminalClass) (keystrokes : List String),
      lists.get kind = .ofList keystrokes →
        (lists.admits kind event = false ↔
          ∃ keystroke ∈ keystrokes, AllowList.lowerString keystroke = event.keystroke) ∧
        (spelled ∈ keystrokes → KeyEvent.IsNormal (AllowList.lowerString spelled) →
          lists.admits kind event = false) ∧
        (keystrokes = [spelled] → lists.admits kind event = false →
          KeyEvent.IsNormal (AllowList.lowerString spelled)) ∧
        ∀ (console : Console) (terminal : Terminal), console.allowLists = lists →
          terminal.keyFilter = some (.lists kind) →
            ((console.pressKeyIn terminal event).2 = .forwarded ↔
              lists.admits kind event = false) := by
  have normal := KeyEvent.lowerString_eq_keystroke_iff read
  refine ⟨fun other same => KeyEvent.parse_of_lowerString_eq same read,
    fun lists kind keystrokes configured => ?_⟩
  have known := AllowLists.admits_eq_false configured event
  refine ⟨known, fun listed isNormal => ?_, ?_, ?_⟩
  · exact known.mpr ⟨spelled, listed, normal.mpr isNormal⟩
  · rintro rfl forwarded
    obtain ⟨keystroke, member, same⟩ := known.mp forwarded
    rw [List.mem_singleton] at member
    exact normal.mp (member ▸ same)
  · rintro console terminal rfl guarded
    rw [(console.pressKeyIn_outcome terminal event).1, guarded]
    rfl

/-- A list with modifiers in their order, in mixed case, honours the key it is read as. -/
theorem spellings_honoured_palette :
    KeyEvent.parse "Ctrl-SHIFT-p" = .ok ⟨.char 'p', ⟨true, false, true, false⟩⟩ ∧
      AllowLists.admits ⟨.ofList ["Ctrl-SHIFT-p"], .empty⟩ .repl
        ⟨.char 'p', ⟨true, false, true, false⟩⟩ = false := by
  have read : KeyEvent.parse "Ctrl-SHIFT-p" = .ok ⟨.char 'p', ⟨true, false, true, false⟩⟩ :=
    KeyEvent.parseChars_eq_ok.mpr (by decide)
  have normal : KeyEvent.IsNormal (AllowList.lowerString "Ctrl-SHIFT-p") :=
    (KeyEvent.lowerString_eq_keystroke_iff read).mp (by decide)
  exact ⟨read, ((spellings_honoured read).2 _ .repl _ rfl).2.1 (by decide) normal⟩

/-- A list does not honour the keystroke it contains where its modifiers stand in another order:
the key it is read as is taken by the terminal. -/
theorem spelling_not_honoured :
    ¬ ∀ (spelled : String) (event : KeyEvent) (lists : AllowLists) (kind : TerminalClass)
      (keystrokes : List String), KeyEvent.parse spelled = .ok event → spelled ∈ keystrokes →
        lists.get kind = .ofList keystrokes → lists.admits kind event = false := by
  intro honoured
  have read : KeyEvent.parse "shift-ctrl-p" = .ok ⟨.char 'p', ⟨true, false, true, false⟩⟩ :=
    KeyEvent.parseChars_eq_ok.mpr (by decide)
  have forwarded := honoured _ _ ⟨.ofList ["shift-ctrl-p"], .empty⟩ .repl ["shift-ctrl-p"] read
    (by decide) rfl
  exact absurd forwarded (by decide)

end RuntimeConsole
