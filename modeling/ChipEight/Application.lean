import ChipEight.CommandLine
import ChipEight.Failure
import ChipEight.Headless
import ChipEight.Host
import ChipEight.KeyMap
import ChipEight.Loop
import ChipEight.Random.ChaCha

namespace ChipEight

/-!
Carrying out a command.

The command succeeds with the exit status 0.  It fails with 1, after its last message went to the
log, and with 2 when its arguments make no sense.  A run without a screen prints the picture in
the end, whether it failed or not.
-/

namespace Application

def versionText : String := "chip8 0.5.0\n"

def helpText : String :=
  "Usage: chip8 run --rom-file FILE [--backend terminal|headless] [--cpu-hz N]\n"
    ++ "                 [--display-hz N] [--seed N] [--keymap FILE] [--frames N]\n"
    ++ "       chip8 dis FILE\n"

def reportAll : List Event -> HostDialogue Unit
  | [] => pure ()
  | event :: events => do
      askHost (.report event)
      reportAll events

def forward (question : Host.Question) :
    StateT Headless (Dialogue Host.Answer) (Host.Answer question) :=
  fun headless => do return (← askHost question, headless)

/--
The devices of a run without a screen: no key is ever down, frames are counted, and time and log
are those of the host.  Single instructions are not logged.
-/
def headlessReply : (question : Device.Question) ->
    StateT Headless (Dialogue Host.Answer) (Device.Answer question)
  | .name => return Headless.name
  | .keys => return Keys.released
  | .update => return .ok (← get).update
  | .render _ => do
      modify Headless.render
      return .ok ()
  | .buzz => do
      forward (.report (← get).buzz)
      return .ok ()
  | .now => forward .now
  | .sleep nanoseconds => forward (.sleep nanoseconds)
  | .report (.executing ..) => return ()
  | .report event => forward (.report event)

/-- Drive a machine without a screen, then print the picture. -/
def runHeadless {G : Type} [Generator G] (machine : Machine G) (frames : Option Nat)
    (passes : Nat) : HostDialogue (Except Failure Unit) := do
  let dialogue := (machine.driveAsConfigured passes).hold headlessReply
  match ← dialogue (Headless.start frames) with
  | (.running loop, _) =>
      askHost (.print loop.machine.screen.dump)
      return .ok ()
  | (.ended result machine, _) =>
      askHost (.print machine.screen.dump)
      return result.mapError .machine

/-- The key map of a file, or the default one. -/
def loadKeyMap : Option String -> HostDialogue (Except Failure KeyMap)
  | none => return .ok .hexadecimal
  | some path => do
      match ← askHost (.bytesOf path) with
      | .error cause => return .error (.host cause)
      | .ok bytes =>
          match (String.fromUTF8? ⟨bytes.toArray⟩).bind KeyMap.ofText? with
          | none => return .error (.keyMap "invalid key definitions")
          | some keyMap => return .ok keyMap

/-- Ask for a terminal to play on, which no host has. -/
def runTerminal (options : RunOptions) : HostDialogue (Except Failure Unit) := do
  if options.frames.isSome then askHost (.report .framesIgnored)
  match ← loadKeyMap options.keyMap with
  | .error failure => return .error failure
  | .ok _ => return .error (.host (← askHost .missingTerminal))

def run (options : RunOptions) (passes : Nat) : HostDialogue (Except Failure Unit) := do
  match ← askHost (.bytesOf options.romFile) with
  | .error cause => return .error (.host cause)
  | .ok program =>
      askHost (.report (.running options.romFile))
      let loading := Machine.boot options.config (ChaCha.ofKey (← askHost .entropy)) program
      reportAll loading.events
      match options.frontEnd with
      | .headless => runHeadless loading.machine options.frames passes
      | .terminal => runTerminal options

def list (path : String) : HostDialogue (Except Failure Unit) := do
  match ← askHost (.bytesOf path) with
  | .error cause => return .error (.host cause)
  | .ok program =>
      askHost (.print (listing program))
      return .ok ()

def perform (passes : Nat) : Command -> HostDialogue (Except Failure Unit)
  | .run options => run options passes
  | .list path => list path

/--
Do what the arguments ask for and answer with the exit status.  A run takes at most `passes`
passes of its loop.
-/
def commandLine (passes : Nat) (arguments : List String) : HostDialogue Nat := do
  match CommandLine.parse arguments with
  | .error .misuse => return 2
  | .error .help =>
      askHost (.print helpText)
      return 0
  | .error .version =>
      askHost (.print versionText)
      return 0
  | .ok command =>
      match ← perform passes command with
      | .ok () => return 0
      | .error failure =>
          askHost (.report (.failed failure.message))
          return 1

end Application
end ChipEight
