import JsonExtract.Command.Basic
import JsonExtract.Decimal.Reading
import JsonExtract.Program

/-!
# Arguments

The arguments name a command and give its settings and words.  A setting has a long name
behind two hyphens, and may have a letter behind one.  Letters can be run together, and the
value of a setting follows behind an equals sign, right behind the letter, or as the next
argument.  Two hyphens alone end the settings.
-/

namespace JsonExtract.Arguments

inductive Setting where
  | compact
  | verbose
  | help
  | version
  | select
  | header
  | coerces
  | timeout
deriving DecidableEq, Repr

namespace Setting

def longName : Setting → String
  | .compact => "compact"
  | .verbose => "verbose"
  | .help => "help"
  | .version => "version"
  | .select => "select"
  | .header => "header"
  | .coerces => "parse-numbers"
  | .timeout => "timeout-ms"

def letter? : Setting → Option Char
  | .compact => none
  | .verbose => some 'v'
  | .help => some 'h'
  | .version => some 'V'
  | .select => some 's'
  | .header => some 'H'
  | .coerces => some 'n'
  | .timeout => some 't'

def takesValue : Setting → Bool
  | .select | .header | .timeout => true
  | .compact | .verbose | .help | .version | .coerces => false

def repeats : Setting → Bool
  | .verbose | .select | .header => true
  | .compact | .help | .version | .coerces | .timeout => false

end Setting

/-- Why the arguments give no command. -/
inductive Stop where
  /-- They make no sense. -/
  | misuse
  /-- They ask for help, or for the version of the program. -/
  | help
  | version
deriving DecidableEq, Repr

structure Shape where
  settings : List Setting
  /-- The greatest number of words. -/
  words : Nat

structure Given where
  switches : List Setting
  values : List (Setting × String)
  words : List String
  /-- The setting whose value comes next. -/
  awaiting : Option Setting
  /-- Whether all that comes are words. -/
  isClosed : Bool

namespace Given

def nothing : Given := ⟨[], [], [], none, false⟩

def valuesOf (given : Given) (setting : Setting) : List String :=
  given.values.filterMap fun entry => if entry.1 = setting then some entry.2 else none

def has (given : Given) (setting : Setting) : Bool :=
  given.switches.contains setting

def addSwitch (given : Given) (setting : Setting) : Except Stop Given :=
  if setting = .help then .error .help
  else if setting = .version then .error .version
  else if given.has setting ∧ !setting.repeats then .error .misuse
  else .ok { given with switches := given.switches ++ [setting] }

def milliseconds? (text : List Char) : Option Nat :=
  let digits := match text with
    | '+' :: rest => rest
    | _ => text
  (Decimal.digits? digits).filter (· < 0x10000000000000000)

def addValue (given : Given) (setting : Setting) (value : String) : Except Stop Given :=
  if setting = .timeout ∧ (milliseconds? value.toList).isNone then .error .misuse
  else if !setting.repeats ∧ !(given.valuesOf setting).isEmpty then .error .misuse
  else .ok { given with values := given.values ++ [(setting, value)], awaiting := none }

def addWord (shape : Shape) (given : Given) (word : String) : Except Stop Given :=
  if given.words.length < shape.words then
    .ok { given with words := given.words ++ [word] }
  else .error .misuse

/-- Letters that are run together. -/
def addLetters (shape : Shape) (given : Given) : List Char → Except Stop Given
  | [] => .ok given
  | letter :: rest =>
    match shape.settings.find? (·.letter? == some letter) with
    | none => .error .misuse
    | some setting =>
      if setting.takesValue then
        match rest with
        | [] => .ok { given with awaiting := some setting }
        | '=' :: value => given.addValue setting (String.ofList value)
        | value => given.addValue setting (String.ofList value)
      else do
        let given ← given.addSwitch setting
        addLetters shape given rest

def addLong (shape : Shape) (given : Given) (text : List Char) : Except Stop Given :=
  let name := String.ofList (text.takeWhile (· ≠ '='))
  match shape.settings.find? (·.longName == name), text.dropWhile (· ≠ '=') with
  | none, _ => .error .misuse
  | some setting, [] =>
    if setting.takesValue then .ok { given with awaiting := some setting }
    else given.addSwitch setting
  | some setting, _ :: value =>
    if setting.takesValue then given.addValue setting (String.ofList value)
    else .error .misuse

def add (shape : Shape) (given : Given) (argument : String) : Except Stop Given :=
  if given.isClosed then given.addWord shape argument
  else
    match given.awaiting, argument.toList with
    | some _, '-' :: _ :: _ => .error .misuse
    | some setting, _ => given.addValue setting argument
    | none, ['-', '-'] => .ok { given with isClosed := true }
    | none, '-' :: '-' :: name => given.addLong shape name
    | none, '-' :: letter :: letters => given.addLetters shape (letter :: letters)
    | none, _ => given.addWord shape argument

def ofList (shape : Shape) (arguments : List String) : Except Stop Given := do
  let given ← arguments.foldlM (add shape) nothing
  if given.awaiting.isSome then .error .misuse else return given

end Given

/-! ## Commands -/

inductive Verb where
  | fetch
  | run
  | pick
  | tokenize
deriving DecidableEq, Repr

namespace Verb

def all : List Verb := [.fetch, .run, .pick, .tokenize]

def name : Verb → String
  | .fetch => "fetch"
  | .run => "run"
  | .pick => "pick"
  | .tokenize => "tokenize"

def shape : Verb → Shape
  | .fetch => ⟨[.select, .header, .coerces, .timeout, .compact, .verbose, .help], 1⟩
  | .run => ⟨[.compact, .verbose, .help], 1⟩
  | .pick => ⟨[.select, .coerces, .compact, .verbose, .help], 1⟩
  | .tokenize => ⟨[.compact, .verbose, .help], 1⟩

def command (verb : Verb) (given : Given) : Except Stop Command :=
  let selectors := given.valuesOf .select
  let coerces := given.has .coerces
  match verb, given.words with
  | .fetch, [url] =>
    let timeout := (given.valuesOf .timeout).head?.bind fun text =>
      Given.milliseconds? text.toList
    .ok (.fetch url selectors (given.valuesOf .header) coerces (timeout.getD defaultTimeout))
  | .run, [file] => .ok (.run file)
  | .pick, [] => .ok (.pick none selectors coerces)
  | .pick, [file] => .ok (.pick (some file) selectors coerces)
  | .tokenize, [path] => .ok (.tokenize path)
  | _, _ => .error .misuse

end Verb

def frontShape : Shape := ⟨[.compact, .verbose, .help, .version], 0⟩

/-- What asking for help about these words comes to. -/
def helpAbout : List String → Stop
  | [] => .help
  | [name] => if name = "help" ∨ Verb.all.any (·.name == name) then .help else .misuse
  | _ => .misuse

def ofVerb (front : Given) (name : String) (arguments : List String) :
    Except Stop Invocation :=
  match Verb.all.find? (·.name == name) with
  | none => .error (if name = "help" then helpAbout arguments else .misuse)
  | some verb => do
    let given ← Given.ofList verb.shape arguments
    let command ← verb.command given
    return ⟨front.has .compact || given.has .compact, command⟩

def ofFront (front : Given) : List String → Except Stop Invocation
  | [] => .error .misuse
  | argument :: rest =>
    match argument.toList with
    | '-' :: _ :: _ => do
      let front ← front.add frontShape argument
      if front.isClosed then .error .misuse else ofFront front rest
    | _ => ofVerb front argument rest

def invocation (arguments : List String) : Except Stop Invocation :=
  ofFront .nothing arguments

/-! ## Reports without a command -/

def usage : String :=
  "Usage: " ++ Program.name ++ " [--compact] [--verbose] <COMMAND>\n\n" ++
  "Commands:\n" ++
  "  fetch <URL> [-s <SELECTOR>]... [-H <HEADER>]... [-n] [-t <MILLISECONDS>]\n" ++
  "  run <FILE>\n" ++
  "  pick [FILE] [-s <SELECTOR>]... [-n]\n" ++
  "  tokenize <PATH>\n"

def Stop.report : Stop → Report
  | .misuse => ⟨2, "", ["error: invalid arguments", "", usage]⟩
  | .help => .success usage []
  | .version => .success (Program.name ++ " " ++ Program.version ++ "\n") []

end JsonExtract.Arguments
