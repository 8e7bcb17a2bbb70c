/-!
# Command-line arguments

A call names one command. Options that hold for every command may stand before or after its name,
at most once on each side; the one after the name wins. Names are given in full.

## Values

The value of an option is the next argument or stands behind an equals sign. An argument that begins
with a dash is never a value, unless it is the dash alone. After `--` every argument is an operand.
-/

namespace StaticSite.CommandLine

/-- What a call asks for. -/
inductive Command
  | build (noCache json : Bool)
  | render (slug : String)
  | check
  | genConfig
deriving DecidableEq, Repr

/-- A call. -/
structure Call where
  config : String := "project.toml"
  output : String := "dist"
  projectVersion? : Option String := none
  verbosity : Nat := 0
  quiet : Bool := false
  command : Command
deriving DecidableEq, Repr

/-- The options given on one side of the command's name, and the command's own. -/
structure Options where
  config? : Option String := none
  output? : Option String := none
  projectVersion? : Option String := none
  verbosity? : Option Nat := none
  quiet : Bool := false
  noCache : Bool := false
  json : Bool := false
deriving DecidableEq, Repr

/-- The options after the command's name over those before it. -/
def Options.over (inner outer : Options) : Options :=
  { config? := inner.config?.or outer.config?
    output? := inner.output?.or outer.output?
    projectVersion? := inner.projectVersion?.or outer.projectVersion?
    verbosity? := inner.verbosity?.or outer.verbosity?
    quiet := inner.quiet || outer.quiet
    noCache := inner.noCache
    json := inner.json }

/-- One more for how much is logged. -/
def Options.louder (o : Options) : Options :=
  { o with verbosity? := some (o.verbosity?.getD 0 + 1) }

/-- Set the quiet flag, which may be given once. -/
def Options.quieten (o : Options) : Option Options :=
  if o.quiet then none else some { o with quiet := true }

/-- Set an option without a value by its name. The flags of `build` count only where they are
allowed. -/
def Options.setFlag (o : Options) (ofBuild : Bool) (name : String) : Option Options :=
  if name = "verbose" then some o.louder
  else if name = "quiet" then o.quieten
  else if ofBuild && name = "no-cache" && !o.noCache then some { o with noCache := true }
  else if ofBuild && name = "json" && !o.json then some { o with json := true }
  else none

/-- Whether an option of this name takes a value. -/
def takesValue (name : String) : Bool :=
  name = "config" || name = "output" || name = "project-version"

/-- Set an option with a value by its name. Paths have to be given by some text. -/
def Options.setValue (o : Options) (name value : String) : Option Options :=
  if name = "config" && o.config?.isNone && value ≠ "" then some { o with config? := some value }
  else if name = "output" && o.output?.isNone && value ≠ "" then
    some { o with output? := some value }
  else if name = "project-version" && o.projectVersion?.isNone then
    some { o with projectVersion? := some value }
  else none

/-- Set the options that a cluster of letters stands for. -/
def Options.setLetters (o : Options) : List Char → Option Options
  | [] => some o
  | 'v' :: rest => o.louder.setLetters rest
  | 'q' :: rest => (o.quieten).bind fun o => o.setLetters rest
  | _ => none

/-- One argument by its form. -/
inductive Argument
  | operand (s : String)
  /-- Only operands follow. -/
  | separator
  | letters (cs : List Char)
  | long (name : String) (value? : Option String)
deriving DecidableEq, Repr

/-- The form of an argument. -/
def Argument.ofText (s : String) : Argument :=
  match s.toList with
  | ['-', '-'] => .separator
  | '-' :: '-' :: rest =>
    let name := rest.takeWhile (· != '=')
    match rest.dropWhile (· != '=') with
    | _ :: value => .long (String.ofList name) (some (String.ofList value))
    | [] => .long (String.ofList name) none
  | '-' :: c :: rest => .letters (c :: rest)
  | _ => .operand s

/-- What was read up to the first operand: options, and that operand with what follows it. -/
structure Scanned where
  options : Options
  operand? : Option String := none
  rest : List String := []
  /-- Whether the operand stands behind `--`, together with all that follows it. -/
  separated : Bool := false

/-- Read options up to the first operand. -/
def scan (ofBuild : Bool) (o : Options) : List String → Option Scanned
  | [] => some { options := o }
  | arg :: rest =>
    match Argument.ofText arg with
    | .operand s => some { options := o, operand? := some s, rest }
    | .separator =>
      match rest with
      | [] => some { options := o, separated := true }
      | s :: rest => some { options := o, operand? := some s, rest, separated := true }
    | .letters cs => (o.setLetters cs).bind fun o => scan ofBuild o rest
    | .long name (some value) =>
      if takesValue name then (o.setValue name value).bind fun o => scan ofBuild o rest else none
    | .long name none =>
      if takesValue name then
        match rest with
        | value :: rest =>
          match Argument.ofText value with
          | .operand value => (o.setValue name value).bind fun o => scan ofBuild o rest
          | _ => none
        | [] => none
      else
        (o.setFlag ofBuild name).bind fun o => scan ofBuild o rest

/-- The options of a command that takes no operand. -/
def withoutOperand (ofBuild : Bool) (args : List String) : Option Options :=
  match scan ofBuild {} args with
  | some { options, operand? := none, .. } => some options
  | _ => none

/-- The options and the operand of a command that takes exactly one. -/
def withOperand (args : List String) : Option (Options × String) :=
  match scan false {} args with
  | some { options, operand? := some operand, rest, separated } =>
    if separated then
      if rest = [] then some (options, operand) else none
    else
      match scan false options rest with
      | some { options, operand? := none, .. } => some (options, operand)
      | _ => none
  | _ => none

/-- The command of a name and the arguments after it, with the options among them. -/
def readCommand (name : String) (args : List String) : Option (Options × Command) :=
  match name with
  | "build" => (withoutOperand true args).map fun o => (o, .build o.noCache o.json)
  | "render" => (withOperand args).map fun r => (r.1, .render r.2)
  | "check" => (withoutOperand false args).map fun o => (o, .check)
  | "gen-config" => (withoutOperand false args).map fun o => (o, .genConfig)
  | _ => none

/-- The call that arguments stand for; `none` if they are no call. -/
def Call.ofArguments? (args : List String) : Option Call :=
  match scan false {} args with
  | some { options := outer, operand? := some name, rest, separated := false } =>
    match readCommand name rest with
    | some (inner, command) =>
      let o := inner.over outer
      some {
        config := o.config?.getD "project.toml"
        output := o.output?.getD "dist"
        projectVersion? := o.projectVersion?
        verbosity := o.verbosity?.getD 0
        quiet := o.quiet
        command }
    | none => none
  | _ => none

end StaticSite.CommandLine
