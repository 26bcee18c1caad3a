/-!
The words of a command line. Options may be given in any order, each at most once, with their value in the next
word or attached to them; after a lone `--` every word is an input.
-/

namespace MarkdownLayout

inductive OutputFormat where
  | outline
  | json
  deriving DecidableEq, Repr, Inhabited

structure Arguments where
  input : String
  profile : Option String := none
  format : OutputFormat := .outline
  loadsImages : Bool := false
  logLevel : String := "warn"
  deriving DecidableEq, Repr, Inhabited

inductive Command where
  | help
  | render (arguments : Arguments)
  deriving DecidableEq, Repr, Inhabited

inductive CommandOption where
  | profile
  | format
  | loadImages
  | logLevel
  | help
  deriving DecidableEq, Repr, Inhabited

inductive UsageError where
  | unknownOption (word : String)
  | missingValue (option : CommandOption)
  | unwantedValue (option : CommandOption)
  | invalidValue (option : CommandOption) (value : String)
  | repeatedOption (option : CommandOption)
  | emptyInput
  | surplusInput (word : String)
  | missingInput
  deriving DecidableEq, Repr, Inhabited

namespace CommandOption

def longName : CommandOption → String
  | profile => "profile"
  | format => "format"
  | loadImages => "load-images"
  | logLevel => "log-level"
  | help => "help"

def shortName? : CommandOption → Option Char
  | profile => some 'p'
  | format => some 'f'
  | help => some 'h'
  | loadImages | logLevel => none

def all : List CommandOption :=
  [profile, format, loadImages, logLevel, help]

def takesValue : CommandOption → Bool
  | profile | format | logLevel => true
  | loadImages | help => false

end CommandOption

namespace UsageError

def flag (option : CommandOption) : String :=
  "'--" ++ option.longName ++ "'"

def message : UsageError → String
  | unknownOption word => "unknown option '" ++ word ++ "'"
  | missingValue option => "a value is required for " ++ flag option
  | unwantedValue option => "no value is taken by " ++ flag option
  | invalidValue option value => "invalid value '" ++ value ++ "' for " ++ flag option
  | repeatedOption option => flag option ++ " is given more than once"
  | emptyInput => "the input file needs a name"
  | surplusInput word => "unexpected argument '" ++ word ++ "'"
  | missingInput => "an input file is required"

end UsageError

namespace CommandLine

structure Draft where
  input : Option String := none
  profile : Option String := none
  format : Option OutputFormat := none
  loadsImages : Bool := false
  logLevel : Option String := none
  deriving DecidableEq, Repr, Inhabited

namespace Draft

def addInput (draft : Draft) (word : String) : Except UsageError Draft :=
  if draft.input.isSome then .error (.surplusInput word)
  else if word = "" then .error .emptyInput
  else .ok { draft with input := some word }

def addProfile (draft : Draft) (path : String) : Except UsageError Draft :=
  if path = "" then .error (.missingValue .profile)
  else if draft.profile.isSome then .error (.repeatedOption .profile)
  else .ok { draft with profile := some path }

def addFormat (draft : Draft) (name : String) : Except UsageError Draft :=
  let format? : Option OutputFormat := match name with
    | "outline" => some .outline
    | "json" => some .json
    | _ => none
  match format?, draft.format with
  | none, _ => .error (.invalidValue .format name)
  | some _, some _ => .error (.repeatedOption .format)
  | some format, none => .ok { draft with format := some format }

def addLogLevel (draft : Draft) (level : String) : Except UsageError Draft :=
  if draft.logLevel.isSome then .error (.repeatedOption .logLevel)
  else .ok { draft with logLevel := some level }

def addLoadImages (draft : Draft) : Except UsageError Draft :=
  if draft.loadsImages then .error (.repeatedOption .loadImages)
  else .ok { draft with loadsImages := true }

def addValue (draft : Draft) (option : CommandOption) (value : String) : Except UsageError Draft :=
  match option with
  | .profile => draft.addProfile value
  | .format => draft.addFormat value
  | .logLevel => draft.addLogLevel value
  | .loadImages | .help => .error (.unwantedValue option)

def finish (draft : Draft) : Except UsageError Command :=
  match draft.input with
  | none => .error .missingInput
  | some input =>
    let standard : Arguments := { input }
    .ok (.render {
      input
      profile := draft.profile
      format := draft.format.getD standard.format
      loadsImages := draft.loadsImages
      logLevel := draft.logLevel.getD standard.logLevel })

end Draft

inductive Word where
  | endOfOptions
  | flag (option : CommandOption) (attached : Option String)
  | unknownOption (word : String)
  | input (word : String)
  deriving DecidableEq, Repr, Inhabited

namespace Word

def long (word : String) (body : List Char) : Word :=
  let name := String.ofList (body.takeWhile (· != '='))
  let attached := match body.dropWhile (· != '=') with
    | [] => none
    | _ :: value => some (String.ofList value)
  match CommandOption.all.find? fun option => option.longName == name with
  | some option => .flag option attached
  | none => .unknownOption word

/-- A value attached to a letter may, but need not, follow an equals sign. -/
def short (word : String) (letter : Char) (rest : List Char) : Word :=
  match CommandOption.all.find? fun option => option.shortName? == some letter with
  | some option =>
    if option.takesValue then
      match rest with
      | [] => .flag option none
      | '=' :: value => .flag option (some (String.ofList value))
      | value => .flag option (some (String.ofList value))
    else .flag option none
  | none => .unknownOption word

def ofText (word : String) : Word :=
  match word.toList with
  | ['-', '-'] => .endOfOptions
  | '-' :: '-' :: body => long word body
  | '-' :: letter :: rest => short word letter rest
  | _ => .input word

end Word

def readInputs (draft : Draft) : List String → Except UsageError Command
  | [] => draft.finish
  | word :: rest => do readInputs (← draft.addInput word) rest

def readWords (draft : Draft) : List String → Except UsageError Command
  | [] => draft.finish
  | word :: rest =>
    match Word.ofText word with
    | .endOfOptions => readInputs draft rest
    | .unknownOption word => .error (.unknownOption word)
    | .input word => do readWords (← draft.addInput word) rest
    | .flag option (some value) => do readWords (← draft.addValue option value) rest
    | .flag .help none => .ok .help
    | .flag .loadImages none => do readWords (← draft.addLoadImages) rest
    | .flag option none =>
      match rest with
      | [] => .error (.missingValue option)
      | value :: rest =>
        match Word.ofText value with
        | .input value => do readWords (← draft.addValue option value) rest
        | _ => .error (.missingValue option)

def command? (words : List String) : Except UsageError Command :=
  readWords {} words

end CommandLine

end MarkdownLayout
