/-
The command line of the generator.

Every argument is read as it stands: an option that takes a value waits for the next
argument, unless the value stands behind an equals sign. A waiting option is settled when
the next option is read, or at the end; an argument that means nothing is refused at once,
whatever is still waiting.
-/
import Cratewright.Text.Search

namespace Cratewright

/-- What the command line asks for. -/
structure Arguments where
  /-- The file of the model. -/
  model : String
  /-- The file of the settings. -/
  settings : Option String
  /-- The directory that the crates are written into. -/
  outDir : String
  /-- The services to generate; empty if the settings decide. -/
  services : List String
  /-- Whether the builder becomes a runtime plugin. -/
  runtimePlugin : Bool
deriving DecidableEq

namespace CommandLine

/-- Why a command line is not carried out. -/
inductive Refusal where
  /-- A required option is missing. -/
  | missingRequired
  /-- An option has no value. -/
  | missingValue
  /-- An option is repeated that may not be. -/
  | repeated
  /-- An argument means nothing. -/
  | unknown
  /-- A flag has a value. -/
  | unneededValue
  /-- Help is asked for. -/
  | help
  /-- The version is asked for. -/
  | version
deriving DecidableEq

/-- The name of the kind of refusal. -/
def Refusal.name : Refusal → String
  | missingRequired => "MissingRequiredArgument"
  | missingValue => "InvalidValue"
  | repeated => "ArgumentConflict"
  | unknown => "UnknownArgument"
  | unneededValue => "TooManyValues"
  | help => "DisplayHelp"
  | version => "DisplayVersion"

/-- An option that takes a value. -/
inductive ValueOption where
  | model
  | settings
  | outDir
  | service
deriving DecidableEq

/-- An option that takes none. -/
inductive Switch where
  | runtimePlugin
  | help
  | version
deriving DecidableEq

/-- An option. -/
inductive Opt where
  | value (o : ValueOption)
  | switch (s : Switch)

/-- The option of a long name. -/
def longOption? : String → Option Opt
  | "model" => some (.value .model)
  | "settings" => some (.value .settings)
  | "out-dir" => some (.value .outDir)
  | "service" => some (.value .service)
  | "runtime-plugin" => some (.switch .runtimePlugin)
  | "help" => some (.switch .help)
  | "version" => some (.switch .version)
  | _ => none

/-- The option of a single letter. -/
def shortOption? : Char → Option Switch
  | 'h' => some .help
  | 'V' => some .version
  | _ => none

/-- What has been read so far. -/
structure Progress where
  model : Option String := none
  settings : Option String := none
  outDir : Option String := none
  services : List String := []
  runtimePlugin : Bool := false
  /-- The option that waits to be settled, with its value once there is one. -/
  waiting : Option (ValueOption × Option String) := none

namespace Progress

/-- Gives an option its value. -/
def set (p : Progress) (o : ValueOption) (v : String) : Except Refusal Progress :=
  match o with
  | .model => if p.model.isSome then .error .repeated else .ok { p with model := some v }
  | .settings =>
    if p.settings.isSome then .error .repeated else .ok { p with settings := some v }
  | .outDir => if p.outDir.isSome then .error .repeated else .ok { p with outDir := some v }
  | .service => .ok { p with services := p.services ++ [v] }

/-- Settles the option that waits. -/
def settle (p : Progress) : Except Refusal Progress :=
  match p.waiting with
  | none => .ok p
  | some (_, none) => .error .missingValue
  | some (o, some v) => { p with waiting := none }.set o v

/-- Carries out a switch. -/
def turnOn (p : Progress) (s : Switch) : Except Refusal Progress := do
  let p ← p.settle
  match s with
  | .runtimePlugin =>
    if p.runtimePlugin then .error .repeated else .ok { p with runtimePlugin := true }
  | .help => .error .help
  | .version => .error .version

/-- Reads a long option, with the value behind an equals sign if there is one. -/
def long (p : Progress) (name : String) (attached : Option String) : Except Refusal Progress :=
  match longOption? name, attached with
  | none, _ => .error .unknown
  | some (.value o), some v => do (← p.settle).set o v
  | some (.value o), none => do return { ← p.settle with waiting := some (o, none) }
  | some (.switch _), some _ => .error .unneededValue
  | some (.switch s), none => p.turnOn s

/-- Reads single letters behind one dash. -/
def short (p : Progress) : List Char → Except Refusal Progress
  | [] => .ok p
  | c :: rest =>
    match shortOption? c with
    | none => .error .unknown
    | some s => do (← p.turnOn s).short rest

/-- Reads an argument that is no option: the value of the option that waits for one. -/
def plain (p : Progress) (argument : String) : Except Refusal Progress :=
  match p.waiting with
  | some (o, none) => .ok { p with waiting := some (o, some argument) }
  | _ => .error .unknown

end Progress

/-- A long option's name and value. -/
def splitLong (s : List Char) : String × Option String :=
  match Text.cutAt? '=' s with
  | some (name, value) => (String.ofList name, some (String.ofList value))
  | none => (String.ofList s, none)

/-- Reads arguments one after the other. After two dashes alone, nothing has a meaning. -/
def read (p : Progress) : List String → Except Refusal Progress
  | [] => .ok p
  | argument :: rest =>
    match argument.toList with
    | ['-', '-'] => if rest.isEmpty then .ok p else .error .unknown
    | '-' :: '-' :: long => do
      let (name, attached) := splitLong long
      read (← p.long name attached) rest
    | '-' :: c :: letters => do read (← p.short (c :: letters)) rest
    | _ => do read (← p.plain argument) rest

/-- The directory that crates are written into unless the command line says otherwise. -/
def defaultOutDir : String := "generated"

/-- What a command line asks for. -/
def parse (arguments : List String) : Except Refusal Arguments := do
  let p ← (← read {} arguments).settle
  match p.model with
  | none => .error .missingRequired
  | some model =>
    return {
      model
      settings := p.settings
      outDir := p.outDir.getD defaultOutDir
      services := p.services
      runtimePlugin := p.runtimePlugin }

end CommandLine

end Cratewright
