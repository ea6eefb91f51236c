import Sidecar.Text.Similarity
import Sidecar.Value.Literal

/-!
Reading the arguments of a command: options, with values of their own or without, and what is left.
-/

namespace Sidecar.Command

/-- An option; those without a value name take no value. -/
structure OptionSpec where
  short : Option Char := none
  long : String
  valueName : Option String := none
  help : String
  deriving DecidableEq, Repr

def OptionSpec.takesValue (o : OptionSpec) : Bool := o.valueName.isSome

def OptionSpec.longName (o : OptionSpec) : String := "--" ++ o.long

def OptionSpec.shortName? (o : OptionSpec) : Option String := o.short.map fun c => String.ofList ['-', c]

/-- Both names in quotes, as reports on values give them. -/
def OptionSpec.names (o : OptionSpec) : String :=
  " / ".intercalate ((o.shortName?.toList ++ [o.longName]).map fun name => "'" ++ name ++ "'")

inductive OptionError where
  | unknown (name : String) (close : List String)
  | needsValue (name : String)
  | takesNoValue (name : String)
  deriving DecidableEq, Repr

/-- The hint that follows a name that is not known. -/
def hint : List String → String
  | [] => ""
  | [name] => " Did you mean " ++ Literal.quoted name ++ "?"
  | names => " (Did you mean one of: " ++ ", ".intercalate (names.map Literal.quoted) ++ "?)"

def OptionError.message : OptionError → String
  | .unknown name close => "No such option " ++ Literal.quoted name ++ "." ++ hint close
  | .needsValue name => "Option " ++ Literal.quoted name ++ " requires an argument."
  | .takesNoValue name => "Option " ++ Literal.quoted name ++ " does not take a value."

/-- An option as it occurs, under its long name. -/
structure Occurrence where
  long : String
  value : Option String := none
  deriving DecidableEq, Repr

/-- What one word of the arguments says. -/
structure Word where
  complete : List Occurrence := []
  /-- An option whose value is the next word, and the name it was called by. -/
  pending : Option (OptionSpec × String) := none
  deriving DecidableEq, Repr

private def splitEquals (s : String) : String × Option String :=
  match s.toList.span (· != '=') with
  | (name, _ :: value) => (String.ofList name, some (String.ofList value))
  | (name, []) => (String.ofList name, none)

/-- Reads a word as a long option, if it is one. -/
def longWord? (options : List OptionSpec) (word : String) : Option (Except OptionError Word) :=
  let (name, value) := splitEquals word
  (options.find? fun o => o.longName = name).map fun o =>
    match o.takesValue, value with
    | true, some v => .ok { complete := [⟨o.long, v⟩] }
    | true, none => .ok { pending := (o, name) }
    | false, some _ => .error (.takesNoValue name)
    | false, none => .ok { complete := [⟨o.long, none⟩] }

/-- Reads the letters behind a dash. The first one that takes a value has the rest of the word as such. -/
def shortWord (options : List OptionSpec) : List Char → Except OptionError Word
  | [] => .ok {}
  | c :: rest => do
    let name := String.ofList ['-', c]
    match options.find? fun o => o.short = some c with
    | none => throw (.unknown name [])
    | some o =>
      if o.takesValue then
        match rest with
        | [] => return { pending := (o, name) }
        | _ => return { complete := [⟨o.long, String.ofList rest⟩] }
      else
        let word ← shortWord options rest
        return { word with complete := ⟨o.long, none⟩ :: word.complete }

/-- Whether a word is one of options. A single dash is not. -/
def isOptionWord (word : String) : Bool := word.toList.head? = some '-' && 1 < word.length

def readWord (options : List OptionSpec) (word : String) : Except OptionError Word :=
  match longWord? options word, word.toList with
  | some result, _ => result
  | none, '-' :: '-' :: _ =>
    let name := (splitEquals word).1
    .error (.unknown name (Similarity.closeTo name (options.map (·.longName))))
  | none, cs => shortWord options (cs.drop 1)

/-- The arguments of a command: its options in order, and the words that are none. -/
structure Arguments where
  options : List Occurrence := []
  words : List String := []
  deriving DecidableEq, Repr

/-- Reads arguments. If options must come first, the first word that is none ends them; two dashes
always do. -/
def readArguments (options : List OptionSpec) (optionsFirst : Bool) :
    List String → Except OptionError Arguments
  | [] => .ok {}
  | word :: rest => do
    if word = "--" then return { words := rest }
    else if isOptionWord word then
      let read ← readWord options word
      match read.pending with
      | none =>
        let args ← readArguments options optionsFirst rest
        return { args with options := read.complete ++ args.options }
      | some (o, name) =>
        match rest with
        | [] => throw (.needsValue name)
        | value :: rest =>
          let args ← readArguments options optionsFirst rest
          return { args with options := read.complete ++ ⟨o.long, value⟩ :: args.options }
    else if optionsFirst then return { words := word :: rest }
    else
      let args ← readArguments options optionsFirst rest
      return { args with words := word :: args.words }

namespace Arguments

/-- The value that was given last. -/
def value? (a : Arguments) (long : String) : Option String :=
  ((a.options.filter fun o => o.long = long).getLast?).bind (·.value)

def has (a : Arguments) (long : String) : Bool := a.options.any fun o => o.long = long

/-- Whether an option is first given before another one. -/
def precedes (a : Arguments) (first second : String) : Bool :=
  ((a.options.map (·.long)).find? fun long => long = first ∨ long = second) = some first

end Arguments

end Sidecar.Command
