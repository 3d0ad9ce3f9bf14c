/-
# Command-line arguments

The program takes the entries to bundle as arguments, and options anywhere between
them.

| option | takes | |
| --- | --- | --- |
| `-s`, `--source` | a path | where entries and modules lie |
| `-o`, `--output` | a path | where bundles are written |
| `-c`, `--config` | a path | a settings file |
| `-m`, `--mixin` | a name | a mixin; may be repeated |
| `--no-strip-comments` | | keep comments and blank lines |
| `-v`, `--verbose` | | report more; may be repeated |
| `-V`, `--version` | | print the version |
| `-h`, `--help` | | print a summary of the options |

A value stands behind `=`, directly behind a short option, or in the next argument,
which then must not look like an option.  Short options can be written together.
Behind `--` every argument is an entry.  Options are taken in order, and the first
that asks for the version or the summary, or cannot be taken, ends the reading.
-/

import LuaBundler.Path

namespace LuaBundler
namespace CommandLine

/-- What the command line says about a run. -/
structure Arguments where
  entries : List String := []
  source : Option Path := none
  output : Option Path := none
  config : Option Path := none
  mixins : List String := []
  keepComments : Bool := false
  verbosity : Nat := 0
  deriving DecidableEq, Repr

/-- What the command line asks for. -/
inductive Command
  | bundle (arguments : Arguments)
  | version
  | help
  | misuse
  deriving DecidableEq, Repr

/-- An option that takes no value. -/
inductive Flag
  | keepComments
  | verbose
  | version
  | help
  deriving DecidableEq, Repr

/-- An option that takes a value. -/
inductive Parameter
  | source
  | output
  | config
  | mixin
  deriving DecidableEq, Repr

/-- The option with a long name. -/
def longOption? : String → Option (Flag ⊕ Parameter)
  | "source" => some (.inr .source)
  | "output" => some (.inr .output)
  | "config" => some (.inr .config)
  | "mixin" => some (.inr .mixin)
  | "no-strip-comments" => some (.inl .keepComments)
  | "verbose" => some (.inl .verbose)
  | "version" => some (.inl .version)
  | "help" => some (.inl .help)
  | _ => none

/-- The option with a short name. -/
def shortOption? : Char → Option (Flag ⊕ Parameter)
  | 's' => some (.inr .source)
  | 'o' => some (.inr .output)
  | 'c' => some (.inr .config)
  | 'm' => some (.inr .mixin)
  | 'v' => some (.inl .verbose)
  | 'V' => some (.inl .version)
  | 'h' => some (.inl .help)
  | _ => none

namespace Arguments

/-- The arguments with one more flag, or what the flag asks for instead. -/
def raise (a : Arguments) : Flag → Except Command Arguments
  | .keepComments => if a.keepComments then .error .misuse else .ok { a with keepComments := true }
  | .verbose => .ok { a with verbosity := a.verbosity + 1 }
  | .version => .error .version
  | .help => .error .help

/-- The path that a value gives to a parameter that has none yet. -/
def newPath? (old : Option Path) (value : String) : Except Command (Option Path) :=
  if old.isSome ∨ value = "" then .error .misuse else .ok (some ⟨value⟩)

/-- The arguments with the value of one more parameter. -/
def give (a : Arguments) (value : String) : Parameter → Except Command Arguments
  | .source => (newPath? a.source value).map fun p => { a with source := p }
  | .output => (newPath? a.output value).map fun p => { a with output := p }
  | .config => (newPath? a.config value).map fun p => { a with config := p }
  | .mixin => .ok { a with mixins := a.mixins ++ [value] }

/-- The arguments with more entries. -/
def enter (a : Arguments) (entries : List String) : Arguments :=
  { a with entries := a.entries ++ entries }

/-- The arguments with the options of a group of short ones, and the parameter at
its end that still needs a value, if any. -/
def readShort (a : Arguments) : List Char → Except Command (Arguments × Option Parameter)
  | [] => .ok (a, none)
  | c :: r =>
    match shortOption? c with
    | none => .error .misuse
    | some (.inl flag) =>
      match a.raise flag with
      | .error e => .error e
      | .ok a => a.readShort r
    | some (.inr parameter) =>
      match r with
      | [] => .ok (a, some parameter)
      | '=' :: value => (a.give (String.ofList value) parameter).map fun a => (a, none)
      | value => (a.give (String.ofList value) parameter).map fun a => (a, none)

/-- The arguments with a long option, and the parameter that still needs a value, if
any. -/
def readLong (a : Arguments) (option : List Char) :
    Except Command (Arguments × Option Parameter) :=
  let name := String.ofList (option.takeWhile (· != '='))
  match longOption? name, option.dropWhile (· != '=') with
  | some (.inl flag), [] => (a.raise flag).map fun a => (a, none)
  | some (.inr parameter), [] => .ok (a, some parameter)
  | some (.inr parameter), _ :: value =>
    (a.give (String.ofList value) parameter).map fun a => (a, none)
  | _, _ => .error .misuse

/-- The argument may be the value of an option before it. -/
def canBeValue (argument : String) : Bool :=
  match argument.toList with
  | '-' :: _ :: _ => false
  | _ => true

/-- The arguments with one more, and the parameter that still needs a value, if any. -/
def readOne (a : Arguments) (argument : String) : Except Command (Arguments × Option Parameter) :=
  match argument.toList with
  | ['-'] => .ok (a.enter [argument], none)
  | '-' :: '-' :: option => a.readLong option
  | '-' :: options => a.readShort options
  | _ => .ok (a.enter [argument], none)

/-- Read the arguments of the program from left to right. -/
def read (a : Arguments) : List String → Command
  | [] => .bundle a
  | argument :: rest =>
    if argument = "--" then .bundle (a.enter rest)
    else
      match a.readOne argument with
      | .error command => command
      | .ok (a, none) => a.read rest
      | .ok (a, some parameter) =>
        match rest with
        | [] => .misuse
        | value :: rest =>
          if canBeValue value then
            match a.give value parameter with
            | .error command => command
            | .ok a => a.read rest
          else .misuse

end Arguments

/-- What the arguments of the program ask for. -/
def Command.ofArguments (arguments : List String) : Command := Arguments.read {} arguments

end CommandLine
end LuaBundler
