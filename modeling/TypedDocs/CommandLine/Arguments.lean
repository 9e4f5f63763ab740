/-
  Arguments of the command line.

  Settings take a value, switches do not, and neither may be given twice.  A
  setting has a long name, `--output out` or `--output=out`, and may have a
  short one, `-o out`, `-oout` or `-o=out`; short switches can stand together.
  Whatever follows `--` is a file.
-/

import TypedDocs.Path

namespace TypedDocs.CommandLine

/-- What is written for each input. -/
inductive Emit where
  /-- The lowered script. -/
  | js
  /-- The source with its comments annotated. -/
  | ts
  deriving DecidableEq, Repr

/-- What the arguments say. -/
structure Arguments where
  files : List Text := []
  output : Option Path := none
  config : Option Path := none
  emit : Option Emit := none
  decorators : Bool := false
  jsx : Bool := false
  disable : Bool := false
  verbose : Bool := false
  deriving DecidableEq, Repr

/-- A setting. -/
inductive Setting where
  | output
  | config
  | emit
  deriving DecidableEq, Repr

/-- A switch. -/
inductive Switch where
  | decorators
  | jsx
  | disable
  | verbose
  deriving DecidableEq, Repr

/-- Why there is nothing to run. -/
inductive Refusal where
  /-- The arguments ask for help. -/
  | help
  /-- The arguments make no sense. -/
  | misuse
  deriving DecidableEq, Repr

/-! ## Single arguments -/

/-- Gives a setting its value. -/
def Arguments.set (a : Arguments) (setting : Setting) (value : Text) : Except Refusal Arguments :=
  match setting with
  | .output =>
    if a.output.isSome || value.isEmpty then .error .misuse else .ok { a with output := some value }
  | .config =>
    if a.config.isSome || value.isEmpty then .error .misuse else .ok { a with config := some value }
  | .emit =>
    if a.emit.isSome then .error .misuse
    else match String.ofList value with
      | "js" => .ok { a with emit := some .js }
      | "ts" => .ok { a with emit := some .ts }
      | _ => .error .misuse

/-- Turns a switch on. -/
def Arguments.turnOn (a : Arguments) (switch : Switch) : Except Refusal Arguments :=
  match switch with
  | .decorators => if a.decorators then .error .misuse else .ok { a with decorators := true }
  | .jsx => if a.jsx then .error .misuse else .ok { a with jsx := true }
  | .disable => if a.disable then .error .misuse else .ok { a with disable := true }
  | .verbose => if a.verbose then .error .misuse else .ok { a with verbose := true }

/-- What a name on the command line stands for. -/
inductive Flag where
  | setting (s : Setting)
  | switch (s : Switch)
  | help
  deriving DecidableEq, Repr

/-- The flag with a long name. -/
def longFlag? : String → Option Flag
  | "output" => some (.setting .output)
  | "config" => some (.setting .config)
  | "emit" => some (.setting .emit)
  | "decorators" => some (.switch .decorators)
  | "jsx" => some (.switch .jsx)
  | "disable" => some (.switch .disable)
  | "verbose" => some (.switch .verbose)
  | "help" => some .help
  | _ => none

/-- The flag with a short name. -/
def shortFlag? : Char → Option Flag
  | 'o' => some (.setting .output)
  | 'c' => some (.setting .config)
  | 'v' => some (.switch .verbose)
  | 'h' => some .help
  | _ => none

/-- What an argument leaves behind, with the setting that waits for its value in the next one. -/
abbrev Step := Arguments × Option Setting

/-- An argument behind two dashes. -/
def long (a : Arguments) (s : Text) : Except Refusal Step :=
  let name := String.ofList (s.takeWhile (· ≠ '='))
  match longFlag? name, s.dropWhile (· ≠ '=') with
  | none, _ => .error .misuse
  | some (.setting setting), [] => .ok (a, some setting)
  | some (.setting setting), _ :: value => (a.set setting value).map (·, none)
  | some (.switch switch), [] => (a.turnOn switch).map (·, none)
  | some .help, [] => .error .help
  | some _, _ :: _ => .error .misuse

/-- The letters behind one dash. -/
def short (a : Arguments) : Text → Except Refusal Step
  | [] => .ok (a, none)
  | c :: s =>
    match shortFlag? c with
    | none => .error .misuse
    | some .help => .error .help
    | some (.switch switch) =>
      match a.turnOn switch with
      | .ok a => short a s
      | .error e => .error e
    | some (.setting setting) =>
      match s with
      | [] => .ok (a, some setting)
      | '=' :: value => (a.set setting value).map (·, none)
      | value => (a.set setting value).map (·, none)

/-- Whether an argument is no flag. -/
def isValue (s : Text) : Bool :=
  s.head? != some '-' || s == ['-']

/-- One argument. -/
def argument (a : Arguments) (s : Text) : Except Refusal Step :=
  match s with
  | '-' :: '-' :: name => long a name
  | '-' :: c :: letters => short a (c :: letters)
  | s => .ok ({ a with files := a.files ++ [s] }, none)

/-! ## All arguments -/

/-- Reads arguments one after the other. -/
def readAll (a : Arguments) : List Text → Except Refusal Arguments
  | [] => .ok a
  | s :: rest =>
    if s = ['-', '-'] then .ok { a with files := a.files ++ rest }
    else match argument a s with
      | .error e => .error e
      | .ok (a, none) => readAll a rest
      | .ok (a, some setting) =>
        match rest with
        | [] => .error .misuse
        | value :: rest =>
          if isValue value then
            match a.set setting value with
            | .ok a => readAll a rest
            | .error e => .error e
          else .error .misuse

/-- What the arguments of a command line say. -/
def parse (args : List Text) : Except Refusal Arguments :=
  readAll {} args

end TypedDocs.CommandLine
