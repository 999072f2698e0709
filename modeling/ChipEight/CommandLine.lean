import ChipEight.Config

namespace ChipEight

/-!
The command line: two commands, one that runs a program and one that lists it.

An option with two dashes takes its value from behind an equals sign or from the next argument;
an option with one dash also takes it from right behind its letter.  A value that is an argument
of its own may not begin with a dash, unless it is nothing but a dash.  After two dashes alone no
more options are recognised.  No option may be given twice.  The arguments are read in their order
and every value as soon as it is met, so the first argument that is out of place decides the
outcome.
-/

/-- Where a program is shown and played. -/
inductive FrontEnd where
  | terminal
  | headless
deriving DecidableEq, Repr

/-- What is known about how to run a program. -/
structure RunOptions where
  romFile : String
  frontEnd : FrontEnd := .terminal
  config : Config := .standard
  keyMap : Option String := none
  frames : Option Nat := none
deriving DecidableEq, Repr

/-- A command that can be carried out. -/
inductive Command where
  | run (options : RunOptions)
  | list (path : String)
deriving DecidableEq, Repr

/-- Why no command is carried out. -/
inductive NoCommand where
  | misuse
  /-- Only an explanation was asked for. -/
  | help
  /-- Only the version was asked for. -/
  | version
deriving DecidableEq, Repr

namespace CommandLine

/-- An argument by its form. -/
inductive Form where
  | separator
  /-- Two dashes, a name, and perhaps a value behind an equals sign. -/
  | long (name : String) (value : Option String)
  /-- One dash, a letter, and what follows it. -/
  | short (letter : Char) (rest : List Char)
  | word (text : String)
deriving DecidableEq, Repr

def Form.ofArgument (argument : String) : Form :=
  match argument.toList with
  | ['-', '-'] => .separator
  | '-' :: '-' :: rest =>
      let name := String.ofList (rest.takeWhile (· != '='))
      match rest.dropWhile (· != '=') with
      | [] => .long name none
      | _ :: value => .long name (some (String.ofList value))
  | '-' :: letter :: rest => .short letter rest
  | _ => .word argument

/-- The options of the command that runs a program. -/
inductive Field where
  | romFile
  | frontEnd
  | cpuRate
  | displayRate
  | seed
  | keyMap
  | frames
deriving DecidableEq, Repr

def Field.ofName? : String -> Option Field
  | "rom-file" => some romFile
  | "backend" => some frontEnd
  | "cpu-hz" => some cpuRate
  | "display-hz" => some displayRate
  | "seed" => some seed
  | "keymap" => some keyMap
  | "frames" => some frames
  | _ => none

def Field.ofLetter? : Char -> Option Field
  | 'f' => some romFile
  | 'b' => some frontEnd
  | _ => none

/-- The value right behind the letter of an option; an equals sign between them is dropped. -/
def attached? : List Char -> Option String
  | [] => none
  | '=' :: value => some (String.ofList value)
  | value => some (String.ofList value)

/-- The options of a run as far as they have been given. -/
structure Given where
  romFile : Option String := none
  frontEnd : Option FrontEnd := none
  cpuRate : Option Nat := none
  displayRate : Option Nat := none
  seed : Option Nat := none
  keyMap : Option String := none
  frames : Option Nat := none
deriving DecidableEq, Repr

/-- An unsigned number of 64 bits in decimal digits; a plus sign may stand in front. -/
def natural? (text : String) : Option Nat :=
  let digits := match text.toList with
    | '+' :: rest => rest
    | digits => digits
  if digits.isEmpty || !digits.all Char.isDigit then none
  else
    let value := digits.foldl (fun value c => value * 10 + (c.toNat - 48)) 0
    if value < Nat.pow 2 64 then some value else none

/-- A path, which may not be empty. -/
def path? (text : String) : Option String :=
  if text.isEmpty then none else some text

def frontEnd? : String -> Option FrontEnd
  | "terminal" => some .terminal
  | "headless" => some .headless
  | _ => none

def assign {Value : Type} (slot : Option Value) (value : Option Value) :
    Except NoCommand (Option Value) :=
  match slot, value with
  | none, some value => .ok (some value)
  | _, _ => .error .misuse

/-- Add an option, unless it has been given before or makes no sense of its value. -/
def Given.add (given : Given) (field : Field) (value : String) : Except NoCommand Given := do
  match field with
  | .romFile => return { given with romFile := ← assign given.romFile (path? value) }
  | .frontEnd => return { given with frontEnd := ← assign given.frontEnd (frontEnd? value) }
  | .cpuRate => return { given with cpuRate := ← assign given.cpuRate (natural? value) }
  | .displayRate =>
      return { given with displayRate := ← assign given.displayRate (natural? value) }
  | .seed => return { given with seed := ← assign given.seed (natural? value) }
  | .keyMap => return { given with keyMap := ← assign given.keyMap (path? value) }
  | .frames => return { given with frames := ← assign given.frames (natural? value) }

/-- The option that a form names, with the value it carries. -/
def Form.option? : Form -> Except NoCommand (Field × Option String)
  | .long name value =>
      if name = "help" ∧ value = none then .error .help
      else
        match Field.ofName? name with
        | some field => .ok (field, value)
        | none => .error .misuse
  | .short letter rest =>
      if letter = 'h' then .error .help
      else
        match Field.ofLetter? letter with
        | some field => .ok (field, attached? rest)
        | none => .error .misuse
  | _ => .error .misuse

/-- Collect the options of a run in their order; the first that is out of place decides. -/
def collect (given : Given) : List String -> Except NoCommand Given
  | [] => .ok given
  | [argument] =>
      match Form.ofArgument argument with
      | .separator => .ok given
      | form =>
          match form.option? with
          | .ok (field, some value) => given.add field value
          | .ok (_, none) => .error .misuse
          | .error reason => .error reason
  | argument :: next :: rest =>
      match Form.ofArgument argument with
      | .separator => .error .misuse
      | form =>
          match form.option?, Form.ofArgument next with
          | .error reason, _ => .error reason
          | .ok (field, some value), _ =>
              match given.add field value with
              | .ok given => collect given (next :: rest)
              | .error reason => .error reason
          | .ok (field, none), .word value =>
              match given.add field value with
              | .ok given => collect given rest
              | .error reason => .error reason
          | .ok (_, none), _ => .error .misuse

/-- The options that the given values describe; the program file has to be among them. -/
def Given.options? (given : Given) : Option RunOptions :=
  given.romFile.map (fun romFile => {
    romFile
    frontEnd := given.frontEnd.getD .terminal
    config := {
      cpuRate := given.cpuRate.getD Config.standard.cpuRate
      displayRate := given.displayRate.getD Config.standard.displayRate
      seed := given.seed.map UInt64.ofNat }
    keyMap := given.keyMap
    frames := given.frames })

def run (arguments : List String) : Except NoCommand Command :=
  match collect {} arguments with
  | .error reason => .error reason
  | .ok given => given.options?.elim (.error .misuse) (fun options => .ok (.run options))

/-- The command to list a program, whose path may have been met already. -/
def list (path : Option String) : List String -> Except NoCommand Command
  | [] => path.elim (.error .misuse) (fun path => .ok (.list path))
  | argument :: rest =>
      match Form.ofArgument argument, path with
      | .long "help" none, _ => .error .help
      | .short 'h' _, _ => .error .help
      | .separator, none =>
          match rest with
          | [word] => (path? word).elim (.error .misuse) (fun path => .ok (.list path))
          | _ => .error .misuse
      | .separator, some path => if rest.isEmpty then .ok (.list path) else .error .misuse
      | .word text, none => (path? text).elim (.error .misuse) (fun path => list (some path) rest)
      | _, _ => .error .misuse

/-- The answer to a call for help, which may be about the name of a command. -/
def explain : List String -> NoCommand
  | [] => .help
  | [name] => if name ∈ ["run", "dis", "help"] then .help else .misuse
  | _ => .misuse

def parse : List String -> Except NoCommand Command
  | [] => .error .misuse
  | argument :: arguments =>
      match Form.ofArgument argument with
      | .long "version" none => .error .version
      | .short 'V' _ => .error .version
      | .long "help" none => .error .help
      | .short 'h' _ => .error .help
      | .word "help" => .error (explain arguments)
      | .word "run" => run arguments
      | .word "dis" => list none arguments
      | _ => .error .misuse

end CommandLine
end ChipEight
