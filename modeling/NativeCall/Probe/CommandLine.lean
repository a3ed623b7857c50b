/-!
This module contains the command line of the probe: flags, the name of an operation and its arguments.
-/

namespace NativeCall.Probe

structure Options where
  config : Option String := none
  trace : Bool := false
  list : Bool := false
  operation : Option String := none
  arguments : List String := []
deriving DecidableEq, Repr

inductive Flag where
  | config
  | trace
  | list
  | help
  | version
deriving DecidableEq, Repr

namespace Flag

def all : List Flag := [config, trace, list, help, version]

def long : Flag → String
  | config => "config"
  | trace => "trace"
  | list => "list"
  | help => "help"
  | version => "version"

def short : Flag → Char
  | config => 'c'
  | trace => 't'
  | list => 'l'
  | help => 'h'
  | version => 'V'

def ofLong? (name : String) : Option Flag :=
  all.find? (·.long == name)

def ofShort? (letter : Char) : Option Flag :=
  all.find? (·.short == letter)

end Flag

inductive UsageError where
  | unknownFlag (word : String)
  | repeated (flag : Flag)
  | missingValue (flag : Flag)
  | unexpectedValue (flag : Flag)
deriving DecidableEq, Repr

def UsageError.message : UsageError → String
  | unknownFlag word => s!"error: unexpected argument '{word}' found"
  | repeated flag => s!"error: the argument '--{flag.long}' cannot be used multiple times"
  | missingValue flag => s!"error: a value is required for '--{flag.long}' but none was supplied"
  | unexpectedValue flag => s!"error: unexpected value for '--{flag.long}' found"

inductive Stop where
  | help
  | version
  | rejected (error : UsageError)
deriving DecidableEq, Repr

inductive Stage where
  | operation
  /-- Flags and the first argument, which may look like a flag that there is not. -/
  | firstArgument
  | arguments
  | wordsOnly
  | configPath (before : Stage)
deriving DecidableEq, Repr

structure Reading where
  options : Options
  stage : Stage

namespace Reading

abbrev Step := Except Stop Reading

def reject (error : UsageError) : Step :=
  .error (.rejected error)

def takeConfig (r : Reading) (path : String) (next : Stage) : Step :=
  if path.isEmpty then reject (.missingValue .config)
  else if r.options.config.isSome then reject (.repeated .config)
  else .ok ⟨{ r.options with config := some path }, next⟩

def takeSwitch (r : Reading) : Flag → Step
  | .help => .error .help
  | .version => .error .version
  | .trace =>
    if r.options.trace then reject (.repeated .trace)
    else .ok { r with options.trace := true }
  | .list =>
    if r.options.list then reject (.repeated .list)
    else .ok { r with options.list := true }
  | .config => .ok { r with stage := .configPath r.stage }

/-- Take a flag by its long name, with the value behind an equals sign. -/
def takeLong (r : Reading) (flag : Flag) (value : Option String) : Step :=
  match flag, value with
  | .config, some path => r.takeConfig path r.stage
  | flag, some _ => reject (.unexpectedValue flag)
  | flag, none => r.takeSwitch flag

/-- Take flags by their letters. What follows the letter of a flag with a value is the value, an equals
sign in between apart. -/
def takeLetters (r : Reading) : List Char → Step
  | [] => .ok r
  | letter :: rest =>
    match Flag.ofShort? letter with
    | none => reject (.unknownFlag (String.ofList ['-', letter]))
    | some .config =>
      match rest with
      | [] => r.takeSwitch .config
      | '=' :: path => r.takeConfig (String.ofList path) r.stage
      | path => r.takeConfig (String.ofList path) r.stage
    | some flag => do (← r.takeSwitch flag).takeLetters rest

def takeWord (r : Reading) (word : String) : Step :=
  let add (o : Options) : Options := { o with arguments := o.arguments ++ [word] }
  match r.stage with
  | .operation => .ok ⟨{ r.options with operation := some word }, .firstArgument⟩
  | .firstArgument => .ok ⟨add r.options, .arguments⟩
  | .arguments => .ok ⟨add r.options, .arguments⟩
  | .wordsOnly =>
    if r.options.operation.isNone then .ok ⟨{ r.options with operation := some word }, .wordsOnly⟩
    else .ok ⟨add r.options, .wordsOnly⟩
  | .configPath before => r.takeConfig word before

def allowsHyphens (stage : Stage) : Bool :=
  match stage with
  | .firstArgument | .configPath .firstArgument => true
  | _ => false

/-- Take a word that starts with a hyphen. A flag cannot take the place of the path of a
configuration. -/
def takeHyphened (r : Reading) (word : String) : Step :=
  let waiting : Bool :=
    match r.stage with
    | .configPath _ => true
    | _ => false
  let flagOr (known : Bool) (take : Step) : Step :=
    if !known && allowsHyphens r.stage then r.takeWord word
    else if waiting then reject (.missingValue .config)
    else take
  match word.toList with
  | ['-', '-'] =>
    if waiting then reject (.missingValue .config) else .ok { r with stage := .wordsOnly }
  | '-' :: '-' :: body =>
    let name := String.ofList (body.takeWhile (· != '='))
    let value :=
      match body.dropWhile (· != '=') with
      | _ :: value => some (String.ofList value)
      | [] => none
    match Flag.ofLong? name with
    | none => flagOr false (reject (.unknownFlag word))
    | some flag => flagOr true (r.takeLong flag value)
  | _ :: letters =>
    flagOr (letters.all fun c => (Flag.ofShort? c).isSome) (r.takeLetters letters)
  | [] => r.takeWord word

def take (r : Reading) (word : String) : Step :=
  match r.stage with
  | .arguments | .wordsOnly => r.takeWord word
  | _ => if word != "-" && word.toList.head? == some '-' then r.takeHyphened word else r.takeWord word

end Reading

def Options.parse (words : List String) : Except Stop Options := do
  let r ← words.foldlM Reading.take ⟨{}, .operation⟩
  match r.stage with
  | .configPath _ => throw (.rejected (.missingValue .config))
  | _ => return r.options

end NativeCall.Probe
