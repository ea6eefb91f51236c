import Sidecar.Command.Page
import Sidecar.Files.Tree

/-!
The commands of the program, and what a list of arguments calls for.
-/

namespace Sidecar.Command

/-- From which level on lines are written to the log. -/
inductive LogThreshold where
  | debug
  | info
  | warning
  | error
  deriving DecidableEq, Repr

namespace LogThreshold

def all : List LogThreshold := [.debug, .info, .warning, .error]

def text : LogThreshold → String
  | .debug => "DEBUG"
  | .info => "INFO"
  | .warning => "WARNING"
  | .error => "ERROR"

/-- The spelling in help and reports. -/
def lowerText (t : LogThreshold) : String := t.text.map Char.toLower

/-- Levels are read without regard to case. -/
def ofText? (s : String) : Option LogThreshold := all.find? fun t => t.lowerText = s.map Char.toLower

end LogThreshold

/-- The form of a log line. -/
def logFormat : String := "%(asctime)s - %(name)s - %(levelname)s - %(message)s"

inductive ServerKind where
  | proxy
  | webhook
  deriving DecidableEq, Repr

inductive Verb where
  | inject
  | serve (kind : ServerKind)
  deriving DecidableEq, Repr

namespace Verb

def all : List Verb := [.inject, .serve .proxy, .serve .webhook]

def name : Verb → String
  | .inject => "inject"
  | .serve .proxy => "proxy"
  | .serve .webhook => "webhook"

def help : Verb → String
  | .inject => "Inject the MCA sidecar into a Pod manifest."
  | .serve .proxy => "Run the MCA proxy server (sidecar mode)."
  | .serve .webhook => "Run the MCA admission webhook server."

end Verb

def helpOption : OptionSpec where
  long := "help"
  help := "Show this message and exit."

def logLevelOption : OptionSpec where
  long := "log-level"
  valueName := some ("[" ++ "|".intercalate (LogThreshold.all.map (·.lowerText)) ++ "]")
  help := "Logging level"

def fileOption : OptionSpec where
  short := some 'f'
  long := "file"
  valueName := some "FILENAME"
  help := "Pod manifest (default: stdin)"

def outputOption : OptionSpec where
  short := some 'o'
  long := "output"
  valueName := some "FILE"
  help := "Output file (default: stdout)"

/-- The program itself, under the name that it is called by. -/
def program (name : String) : CommandSpec where
  path := name
  help := "MCA - Kubernetes API proxy sidecar."
  options := [logLevelOption, helpOption]
  commands := Verb.all.map fun v => (v.name, v.help)

def Verb.spec (programName : String) (v : Verb) : CommandSpec where
  path := programName ++ " " ++ v.name
  help := v.help
  options := match v with
    | .inject => [fileOption, outputOption, helpOption]
    | .serve _ => [helpOption]

inductive UsageError where
  | option (error : OptionError)
  | missingCommand
  | unknownCommand (name : String) (close : List String)
  | unknownLevel (text : String)
  | unreadableInput (path : String) (obstacle : Obstacle)
  | outputIsDirectory (path : String)
  | tooManyWords (words : List String)
  deriving DecidableEq, Repr

namespace UsageError

private def invalid (o : OptionSpec) (reason : String) : String :=
  "Invalid value for " ++ o.names ++ ": " ++ reason

def message : UsageError → String
  | .option error => error.message
  | .missingCommand => "Missing command."
  | .unknownCommand name close => "No such command " ++ Literal.quoted name ++ "." ++ hint close
  | .unknownLevel text => invalid logLevelOption (Literal.quoted text ++ " is not one of "
      ++ ", ".intercalate (LogThreshold.all.map fun t => Literal.quoted t.lowerText) ++ ".")
  | .unreadableInput path obstacle => invalid fileOption ("'" ++ path ++ "': " ++ obstacle.reason)
  | .outputIsDirectory path =>
    invalid outputOption ("File " ++ Literal.quoted path ++ " is a directory.")
  | .tooManyWords words =>
    "Got unexpected extra argument" ++ (if words.length = 1 then "" else "s")
      ++ " (" ++ " ".intercalate words ++ ")"

/-- Reports on missing and superfluous values of options stand without the usage of the command. -/
def showsUsage : UsageError → Bool
  | .option (.needsValue _) | .option (.takesNoValue _) => false
  | _ => true

def report (c : CommandSpec) (e : UsageError) : String :=
  (if e.showsUsage then c.pointer else "") ++ "Error: " ++ e.message ++ "\n"

end UsageError

/-- What a list of arguments calls for. -/
inductive Invocation where
  /-- A help page, on the error output if nothing was asked for. -/
  | page (c : CommandSpec) (asked : Bool)
  | misused (c : CommandSpec) (error : UsageError)
  | run (level : LogThreshold) (verb : Verb) (arguments : List String)
  deriving DecidableEq, Repr

/-- The level that the arguments ask for. -/
def levelOf (a : Arguments) : Except UsageError LogThreshold :=
  match a.value? logLevelOption.long with
  | none => .ok .info
  | some text =>
    match LogThreshold.ofText? text with
    | some t => .ok t
    | none => .error (.unknownLevel text)

/-- What the options of the program itself call for, if that is not a command. -/
def early? (c : CommandSpec) (args : List String) : Except Invocation (LogThreshold × List String) :=
  match readArguments c.options true args with
  | .error e => .error (.misused c (.option e))
  | .ok a =>
    if a.has helpOption.long then .error (.page c true)
    else
      match levelOf a with
      | .error e => .error (.misused c e)
      | .ok level => .ok (level, a.words)

def unknownCommand (name : String) : UsageError :=
  .unknownCommand name (Similarity.closeTo name (Verb.all.map (·.name)))

/-- Reads the arguments up to the command. What stands for a command and looks like an option is taken
for one of the program. -/
def invocation (programName : String) (args : List String) : Invocation :=
  let c := program programName
  if args.isEmpty then .page c false
  else
    match early? c args with
    | .error i => i
    | .ok (_, []) => .misused c .missingCommand
    | .ok (level, word :: rest) =>
      match Verb.all.find? fun v => v.name = word with
      | some verb => .run level verb rest
      | none =>
        if word.toList.head? = some '-' then
          match early? c (word :: rest) with
          | .error i => i
          | .ok _ => .misused c (unknownCommand word)
        else .misused c (unknownCommand word)

end Sidecar.Command
