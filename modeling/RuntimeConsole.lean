import RuntimeConsole.Console.Event
import RuntimeConsole.Interchange.Keyboard
import RuntimeConsole.Interchange.Link
import RuntimeConsole.Main
import RuntimeConsole.Proofs.LinkAccuracy
import RuntimeConsole.Proofs.ScreenCells
import RuntimeConsole.Proofs.TapeRefinement
import RuntimeConsole.Proofs.CursorBounds
import RuntimeConsole.Console.ShellEvent
import RuntimeConsole.Proofs.ShellSteps
import RuntimeConsole.Proofs.ShellBooks
import RuntimeConsole.Console.Course
import RuntimeConsole.Proofs.LifecycleSerial
import RuntimeConsole.Proofs.LifecycleCalm
import RuntimeConsole.Link.Runs
import RuntimeConsole.Proofs.PathEnds
import RuntimeConsole.Proofs.LinkRuns
import RuntimeConsole.Proofs.LinkRematch
import RuntimeConsole.Json.Shape
import RuntimeConsole.Proofs.JsonNumbers
import RuntimeConsole.Proofs.JsonRoundTrip
import RuntimeConsole.Proofs.Utf8RoundTrip
import RuntimeConsole.Proofs.WireRoundTrip
import RuntimeConsole.Proofs.LifecycleQuiet
import RuntimeConsole.Console.Following
import RuntimeConsole.Proofs.LifecycleOnce
import RuntimeConsole.Proofs.SupersededStreams
import RuntimeConsole.Proofs.PromptNotices
import RuntimeConsole.Proofs.ModuleReports
import RuntimeConsole.Proofs.StaleQuestions
import RuntimeConsole.Proofs.BootAttempts
import RuntimeConsole.Proofs.ActivatedConsole
import RuntimeConsole.Proofs.ShellLodging
import RuntimeConsole.Proofs.ShellsAfterDeactivation
import RuntimeConsole.Proofs.NestedEffects
import RuntimeConsole.Proofs.StreamAges
import RuntimeConsole.Console.ConsoleEvent
import RuntimeConsole.Proofs.EventSpares
import RuntimeConsole.Proofs.ConsoleMove
import RuntimeConsole.Proofs.ConsoleUpkeep
import RuntimeConsole.Proofs.KeyRouting
import RuntimeConsole.Proofs.Registrations
import RuntimeConsole.Proofs.Retirement
import RuntimeConsole.Proofs.Deactivation
import RuntimeConsole.Console.Serving
import RuntimeConsole.Proofs.RequestService
import RuntimeConsole.Proofs.JsonLayout
import RuntimeConsole.Proofs.PersistedShells
import RuntimeConsole.Proofs.ShellRestoration
import RuntimeConsole.Proofs.ScreenCharacters
import RuntimeConsole.Proofs.ShownOutput
import RuntimeConsole.Proofs.ReachableScreens
import RuntimeConsole.Proofs.EarlyOutput
import RuntimeConsole.Proofs.CursorQuestions
import RuntimeConsole.Proofs.LinkAnatomy
import RuntimeConsole.Proofs.PrintedLines
import RuntimeConsole.Console.LinkUse
import RuntimeConsole.Proofs.OpenedFiles
import RuntimeConsole.Proofs.LinkInquiries
import RuntimeConsole.Proofs.LinkCourse
import RuntimeConsole.Proofs.LinkOpenings
import RuntimeConsole.Proofs.InterruptedLinks
import RuntimeConsole.Link.WindowsPath
import RuntimeConsole.Proofs.WindowsPaths
import RuntimeConsole.Proofs.LowerCase
import RuntimeConsole.Proofs.KeystrokeReading
import RuntimeConsole.Proofs.KeystrokeNormalForm
import RuntimeConsole.Proofs.KeySpellings
import RuntimeConsole.Proofs.SelectedText
import RuntimeConsole.Config.StoreEvent
import RuntimeConsole.Console.SettingsEvent
import RuntimeConsole.Proofs.StoreHistory
import RuntimeConsole.Proofs.SettingsObservers
import RuntimeConsole.Proofs.ReleasedOnce
import RuntimeConsole.Proofs.ErasedRegions
import RuntimeConsole.Proofs.ExactArithmetic
import RuntimeConsole.Screen.Operation
import RuntimeConsole.Proofs.GridShape
