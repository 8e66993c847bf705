/-
The command line: a command with its words and options. An option takes its value from the
same argument, behind its letter or an equals sign, or else from the next argument, which
must not look like an option itself. After two hyphens every argument is a word.
-/
namespace ExampleProbes.Terminal

inductive Stop where
  | misuse
  | help
  | version
  deriving DecidableEq, Repr

inductive Token where
  | rest
  | long (name : String) (value : Option String)
  | short (letter : Char) (value : Option String)
  | word (text : String)
  deriving DecidableEq, Repr

def valueAfterEquals (text : List Char) : Option String :=
  match text.dropWhile (· != '=') with
  | [] => none
  | _ :: value => some (String.ofList value)

def valueAfterLetter : List Char → Option String
  | [] => none
  | '=' :: value => some (String.ofList value)
  | value => some (String.ofList value)

def Token.of (argument : String) : Token :=
  match argument.toList with
  | ['-', '-'] => .rest
  | '-' :: '-' :: text =>
    .long (String.ofList (text.takeWhile (· != '='))) (valueAfterEquals text)
  | '-' :: letter :: text => .short letter (valueAfterLetter text)
  | _ => .word argument

inductive Choice where
  | config
  | language
  deriving DecidableEq, Repr

inductive Verb where
  | scan
  | config
  | normalizeUri
  deriving DecidableEq, Repr

def Verb.ofName? : String → Option Verb
  | "scan" => some .scan
  | "config" => some .config
  | "normalize-uri" => some .normalizeUri
  | _ => none

def choices : Option Verb → List Choice
  | some .scan => [.config, .language]
  | _ => [.config]

def Choice.long : Choice → String
  | .config => "config"
  | .language => "language"

def Choice.letter : Choice → Char
  | .config => 'c'
  | .language => 'l'

def wordLimit : Option Verb → Nat
  | some .scan => 1
  | some .normalizeUri => 1
  | _ => 0

structure Given where
  config : Option String := none
  language : Option String := none
  words : List String := []
  deriving DecidableEq, Repr

namespace Given

def get (given : Given) : Choice → Option String
  | .config => given.config
  | .language => given.language

def put (given : Given) (value : String) : Choice → Given
  | .config => { given with config := some value }
  | .language => { given with language := some value }

/-- An option may be given once, and a path is not empty. -/
def choose (given : Given) (choice : Choice) (value : String) : Except Stop Given :=
  if (given.get choice).isSome || choice = .config && value = "" then .error .misuse
  else .ok (given.put value choice)

/-- What is scanned is a path, too. -/
def addWord (verb : Option Verb) (given : Given) (word : String) : Except Stop Given :=
  if wordLimit verb ≤ given.words.length || verb = some .scan && word = "" then .error .misuse
  else .ok { given with words := given.words ++ [word] }

def addWords (verb : Option Verb) : Given → List String → Except Stop Given
  | given, [] => .ok given
  | given, word :: rest =>
    match given.addWord verb word with
    | .error stop => .error stop
    | .ok next => addWords verb next rest

end Given

def helpTopics : List String := ["scan", "config", "normalize-uri", "help"]

def helpOn : List String → Stop
  | [] => .help
  | [topic] => if helpTopics.contains topic then .help else .misuse
  | _ => .misuse

/-- What an option stands for: one that takes a value, or one that stops. -/
def meaning (verb : Option Verb) (token : Token) : Except Stop Choice :=
  match token with
  | .long name value =>
    if name = "help" then .error (if value.isSome then .misuse else .help)
    else if name = "version" ∧ verb = none then
      .error (if value.isSome then .misuse else .version)
    else match (choices verb).find? (·.long == name) with
      | some choice => .ok choice
      | none => .error .misuse
  | .short letter _ =>
    if letter = 'h' then .error .help
    else if letter = 'V' ∧ verb = none then .error .version
    else match (choices verb).find? (·.letter == letter) with
      | some choice => .ok choice
      | none => .error .misuse
  | _ => .error .misuse

def attached : Token → Option String
  | .long _ value => value
  | .short _ value => value
  | _ => none

/-- What stands behind a verb, or before one: the options and words given, and the verb that
   ends the reading with the arguments after it. `waiting` is an option without its value. -/
def readFrom (verb : Option Verb) (waiting : Option Choice) (given : Given) :
    List String → Except Stop (Given × Option (Verb × List String))
  | [] => if waiting.isSome then .error .misuse else .ok (given, none)
  | argument :: later =>
    match waiting, Token.of argument with
    | some choice, .word value =>
      match given.choose choice value with
      | .error stop => .error stop
      | .ok next => readFrom verb none next later
    | some _, _ => .error .misuse
    | none, .rest => (given.addWords verb later).map (·, none)
    | none, .word word =>
      match verb with
      | none =>
        match Verb.ofName? word with
        | some found => .ok (given, some (found, later))
        | none => .error (if word = "help" then helpOn later else .misuse)
      | some _ =>
        match given.addWord verb word with
        | .error stop => .error stop
        | .ok next => readFrom verb none next later
    | none, token =>
      match meaning verb token with
      | .error stop => .error stop
      | .ok choice =>
        match attached token with
        | none => readFrom verb (some choice) given later
        | some value =>
          match given.choose choice value with
          | .error stop => .error stop
          | .ok next => readFrom verb none next later

/-- What to do. Paths are not empty. -/
inductive Request where
  | scan (path : String) (language : Option String)
  | config (path : Option String)
  | normalizeUri (uri : String)
  deriving DecidableEq, Repr

def nonempty (path : Option String) : Bool := path != some ""

def requestOf (verb : Verb) (given : Given) (config : Option String) : Except Stop Request :=
  match verb, given.words with
  | .scan, [path] => .ok (.scan path given.language)
  | .config, [] => .ok (.config config)
  | .normalizeUri, [uri] => .ok (.normalizeUri uri)
  | _, _ => .error .misuse

/-- The settings file named behind the verb counts before one named in front of it, and both
   before the one that the environment names. -/
def Request.of (arguments : List String) (environment : Option String) :
    Except Stop Request := do
  match ← readFrom none none {} arguments with
  | (_, none) => .error .misuse
  | (general, some (verb, later)) =>
    let (special, _) ← readFrom (some verb) none {} later
    let inner := special.config.or environment
    let outer := general.config.or environment
    if nonempty inner && nonempty outer then
      requestOf verb special (special.config.or outer)
    else .error .misuse

end ExampleProbes.Terminal
