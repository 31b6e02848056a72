/-!
The command line: which task it asks for, and with what options. Long options are written `--name value` or
`--name=value`, short ones `-n value`, `-nvalue` or `-n=value`; short options without a value can share a dash. After
`--` every word is a file.
-/
namespace AnnotatedSql.Cli

/-- How results are printed. -/
inductive Format where
  | human
  | json
deriving Repr, DecidableEq

def Format.name : Format → String
  | human => "human"
  | json => "json"

/-- What the command line says about a compilation. -/
structure CompileArgs where
  files : List String := []
  schema : List String := []
  schemaDir : Option String := none
  dialect : Option String := none
  format : Option Format := none
  config : Option String := none
  positional : Option Bool := none
deriving Repr, DecidableEq

/-- What the command line says about a listing of the schema. -/
structure SchemaArgs where
  files : List String := []
  dialect : Option String := none
  json : Bool := false
deriving Repr, DecidableEq

inductive Task where
  | compile (args : CompileArgs)
  | schema (args : SchemaArgs)
deriving Repr, DecidableEq

/-- A task, and whether the summary is left out. -/
structure Invocation where
  task : Task
  quiet : Bool
deriving Repr, DecidableEq

/-- What a version or a help text is about. -/
inductive Topic where
  | program
  | compile
  | schema
deriving Repr, DecidableEq

/-- What is wrong with a command line. -/
inductive UsageError where
  | unknownOption (word : String)
  | missingValue (option : String)
  | unexpectedValue (option : String)
  | invalidValue (option value : String)
  | repeated (option : String)
  | unexpectedWord (word : String)
  | missingTask
  | missingFiles
deriving Repr, DecidableEq

def UsageError.message : UsageError → String
  | unknownOption word => s!"unexpected argument '{word}' found"
  | missingValue option => s!"a value is required for '{option}' but none was supplied"
  | unexpectedValue option => s!"unexpected value for '{option}'"
  | invalidValue option value => s!"invalid value '{value}' for '{option}'"
  | repeated option => s!"the argument '{option}' cannot be used multiple times"
  | unexpectedWord word => s!"unrecognized subcommand '{word}'"
  | missingTask => "a subcommand is required"
  | missingFiles => "the following required arguments were not provided: <FILES>..."

/-- Why a command line asks for no task. -/
inductive Halt where
  | usage (error : UsageError)
  | version (topic : Topic)
  | help (topic : Topic)
deriving Repr, DecidableEq

/-- Takes the value of an option over into what was read so far. -/
abbrev Setter (σ : Type) := String → σ → Except UsageError σ

inductive Action (σ : Type) where
  | flag (set : σ → Except UsageError σ)
  | value (set : Setter σ)
  | halt (why : Halt)

structure OptionForm (σ : Type) where
  short : Option Char
  long : String
  action : Action σ

section
variable {σ : Type}

/-- Lifts a fault of one option to the whole command line. -/
def lift (result : Except UsageError σ) : Except Halt σ :=
  result.mapError .usage

/-- Short options behind one dash. One that takes a value takes what follows it; if nothing does, its value is still
    to come. -/
def cluster (options : List (OptionForm σ)) : List Char → σ → Except Halt (σ × Option (String × Setter σ))
  | [], state => .ok (state, none)
  | c :: rest, state =>
    let name := "-" ++ c.toString
    match options.find? (·.short == some c) with
    | none => .error (.usage (.unknownOption name))
    | some form =>
      match form.action with
      | .flag set => do cluster options rest (← lift (set state))
      | .halt why => .error why
      | .value set =>
        match rest with
        | [] => .ok (state, some (name, set))
        | '=' :: value => return (← lift (set (String.ofList value) state), none)
        | value => return (← lift (set (String.ofList value) state), none)

/-- A long option without its dashes. -/
def longOption (options : List (OptionForm σ)) (word : List Char) (state : σ) :
    Except Halt (σ × Option (String × Setter σ)) :=
  let name := word.takeWhile (· != '=')
  let shown := "--" ++ String.ofList name
  match options.find? (·.long == String.ofList name) with
  | none => .error (.usage (.unknownOption shown))
  | some form =>
    match form.action, word.drop name.length with
    | .value set, [] => .ok (state, some (shown, set))
    | .value set, _ :: value => return (← lift (set (String.ofList value) state), none)
    | _, _ :: _ => .error (.usage (.unexpectedValue shown))
    | .flag set, [] => return (← lift (set state), none)
    | .halt why, [] => .error why

/-- Whether a word is written like an option. A lone dash is not. -/
def isOption (word : String) : Bool :=
  word.startsWith "-" && word != "-"

/-- A word that is written like an option. What it gives back besides is the option whose value is the next word. -/
def optionWord (options : List (OptionForm σ)) (word : String) (state : σ) :
    Except Halt (σ × Option (String × Setter σ)) :=
  match word.toList with
  | '-' :: '-' :: long => longOption options long state
  | _ :: short => cluster options short state
  | [] => .ok (state, none)

/-- The words of a command line after the name of the task. -/
def readWords (options : List (OptionForm σ)) (operand : Setter σ) : List String → σ → Except Halt σ
  | [], state => .ok state
  | word :: rest, state =>
    if word == "--" then lift (rest.foldlM (fun state word => operand word state) state)
    else if isOption word then
      match optionWord options word state with
      | .error why => .error why
      | .ok (state, none) => readWords options operand rest state
      | .ok (state, some (name, set)) =>
        match rest with
        | [] => .error (.usage (.missingValue name))
        | value :: rest =>
          if isOption value then .error (.usage (.missingValue name))
          else
            match set value state with
            | .error error => .error (.usage error)
            | .ok state => readWords options operand rest state
    else
      match operand word state with
      | .error error => .error (.usage error)
      | .ok state => readWords options operand rest state

end

/-! Options -/

/-- A value that may be given once. -/
def once {α : Type} (option : String) (present : Option α) (value : α) : Except UsageError (Option α) :=
  if present.isSome then .error (.repeated option) else .ok (some value)

/-- A flag that may be given once. -/
def onceFlag (option : String) (present : Bool) : Except UsageError Bool :=
  if present then .error (.repeated option) else .ok true

/-- A path is not empty. -/
def path (option value : String) : Except UsageError String :=
  if value.isEmpty then .error (.invalidValue option value) else .ok value

/-- The value of a name in a list. -/
def choice {α : Type} (option value : String) (choices : List (String × α)) : Except UsageError α :=
  match choices.lookup value with
  | some chosen => .ok chosen
  | none => .error (.invalidValue option value)

/-- What was read so far: the options of a task, and the one that all tasks share. -/
structure Reading (α : Type) where
  args : α
  quiet : Bool := false

/-- The options that stand before or after the name of any task. -/
def sharedOptions {α : Type} (topic : Topic) : List (OptionForm (Reading α)) := [
  { short := some 'v', long := "verbose", action := .flag .ok },
  { short := some 'q', long := "quiet"
    action := .flag fun r => do return { r with quiet := ← onceFlag "--quiet" r.quiet } },
  { short := some 'h', long := "help", action := .halt (.help topic) },
  { short := some 'V', long := "version", action := .halt (.version topic) }]

/-- An option of a task with a value. -/
def valued {α : Type} (short : Option Char) (long : String) (set : String → α → Except UsageError α) :
    OptionForm (Reading α) where
  short
  long
  action := .value fun value r => do return { r with args := ← set value r.args }

def compileOptions : List (OptionForm (Reading CompileArgs)) := [
  valued (some 's') "schema" fun value args => do
    return { args with schema := args.schema ++ [← path "--schema" value] },
  valued none "schema-dir" fun value args => do
    return { args with schemaDir := ← once "--schema-dir" args.schemaDir (← path "--schema-dir" value) },
  valued (some 'd') "dialect" fun value args => do
    return { args with dialect := ← once "--dialect" args.dialect value },
  valued (some 'f') "format" fun value args => do
    let format ← choice "--format" value [("human", .human), ("json", .json)]
    return { args with format := ← once "--format" args.format format },
  valued (some 'c') "config" fun value args => do
    return { args with config := ← once "--config" args.config (← path "--config" value) },
  valued none "positional-parameters" fun value args => do
    let positional ← choice "--positional-parameters" value [("true", true), ("false", false)]
    return { args with positional := ← once "--positional-parameters" args.positional positional }] ++
  sharedOptions .compile

def schemaOptions : List (OptionForm (Reading SchemaArgs)) := [
  valued (some 'd') "dialect" fun value args => do
    return { args with dialect := ← once "--dialect" args.dialect value },
  { short := none, long := "json"
    action := .flag fun r => do return { r with args.json := ← onceFlag "--json" r.args.json } }] ++
  sharedOptions .schema

def readCompile (words : List String) : Except Halt (Reading CompileArgs) :=
  readWords compileOptions (fun word r => do return { r with args.files := r.args.files ++ [← path "<FILES>" word] })
    words { args := {} }

def readSchema (words : List String) : Except Halt (Reading SchemaArgs) := do
  let reading ← readWords schemaOptions
    (fun word r => do return { r with args.files := r.args.files ++ [← path "<FILES>" word] }) words { args := {} }
  if reading.args.files.isEmpty then .error (.usage .missingFiles) else .ok reading

/-- The words after a request for help. -/
def readHelp : List String → Halt
  | [] => .help .program
  | ["compile"] => .help .compile
  | ["schema"] => .help .schema
  | word :: _ => .usage (.unexpectedWord word)

/-- The task that a name introduces. -/
def readTask (quiet : Bool) (name : String) (words : List String) : Except Halt Invocation :=
  match name with
  | "compile" => do
    let reading ← readCompile words
    return { task := .compile reading.args, quiet := quiet || reading.quiet }
  | "schema" => do
    let reading ← readSchema words
    return { task := .schema reading.args, quiet := quiet || reading.quiet }
  | "help" => .error (readHelp words)
  | _ => .error (.usage (.unexpectedWord name))

/-- The words of a command line, after the options already read. -/
def readFrom (reading : Reading Unit) : List String → Except Halt Invocation
  | [] => .error (.usage .missingTask)
  | word :: rest =>
    if isOption word then
      if word == "--" then .error (.usage .missingTask)
      else
        match optionWord (sharedOptions .program) word reading with
        | .error why => .error why
        | .ok (reading, _) => readFrom reading rest
    else readTask reading.quiet word rest

/-- What a command line asks for. -/
def read (words : List String) : Except Halt Invocation :=
  readFrom { args := () } words

end AnnotatedSql.Cli
