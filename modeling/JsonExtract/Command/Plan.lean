import JsonExtract.Command.Basic
import JsonExtract.Command.Headers
import JsonExtract.Command.Listing
import JsonExtract.Http.Client
import JsonExtract.Selector.Argument
import JsonExtract.Specification.Reading

/-!
# Plans

What a command comes to is settled before anything is fetched: either its report, or a job and
the view in which the outcome of the job is reported.  So every problem with the arguments or
with a file comes up before the only request.
-/

namespace JsonExtract

inductive Plan where
  | report (settled : Report)
  | job (work : Job) (view : View)

namespace Plan

/-- The plan that has been made, or the report of the problem that came in between. -/
def ofExcept : Except Problem Plan → Plan
  | .ok plan => plan
  | .error problem => .report (.ofProblem problem)

/-- The report, documents being fetched by a transport. -/
def run (transport : Transport) : Plan → Report
  | .report settled => settled
  | .job work view => view.conclude (work.run transport)

def perform (client : Http.Client) (network : Http.Network) :
    Plan → List Http.Call × Report
  | .report settled => ([], settled)
  | .job work view =>
    let (calls, reply) := client.fetch network work.request
    (calls, view.conclude (work.finish reply))

end Plan

/-! ## Where commands read -/

inductive Source where
  | nothing
  | input
  | file (path : String)
deriving DecidableEq, Repr

namespace Source

def faultText : Text.Utf8.Fault → String
  | .illFormed length offset =>
    "invalid utf-8 sequence of " ++ toString length ++ " bytes from index " ++ toString offset
  | .cutOff offset => "incomplete utf-8 byte sequence from index " ++ toString offset

def text (source : Source) (octets : List UInt8) : Except Problem String :=
  match Text.Utf8.decode octets, source with
  | .ok text, _ => .ok (String.ofList text)
  | .error fault, .input => .error (.io (faultText fault))
  | .error _, _ => .error (.io "stream did not contain valid UTF-8")

end Source

namespace Command

def source : Command → Source
  | .fetch .. => .nothing
  | .run file => .file file
  | .pick file _ _ =>
    match file with
    | none => .input
    | some "-" => .input
    | some path => .file path
  | .tokenize _ => .nothing

/-- The variables whose values a command needs, `text` being what its source holds. -/
def references (text : Except Problem String) : Command → List String
  | .run _ =>
    match text.bind Specification.ofText with
    | .ok specification => specification.references
    | .error _ => []
  | .fetch .. | .pick .. | .tokenize _ => []

/-- The selectors that arguments give, the whole document being selected if there are none. -/
def selectors (arguments : List String) : Except Problem (List Selector) :=
  if arguments.isEmpty then .ok [.ofPath ""] else arguments.mapM Selector.ofArgument

/-- The plan for a command, `text` being what its source holds. -/
def plan (isCompact : Bool) (lookup : Variables.Lookup) (text : Except Problem String) :
    Command → Plan
  | .fetch url arguments headerArguments coerces timeout => .ofExcept do
    let selectors ← selectors arguments
    let headers ← headers headerArguments
    return .job ⟨⟨url, headers, timeout⟩, selectors, coerces⟩ ⟨arguments.isEmpty, isCompact⟩
  | .run _ => .ofExcept do
    let specification ← Specification.load lookup (← text)
    return .job (.ofSpecification specification) ⟨false, isCompact⟩
  | .pick _ arguments coerces => .ofExcept do
    let document ← (Json.ofText (← text)).mapError .invalidJson
    let selectors ← selectors arguments
    let view : View := ⟨arguments.isEmpty, isCompact⟩
    return .report (view.report (evaluate selectors document coerces))
  | .tokenize path =>
    .report (.success (String.join ((listing (Path.tokenize path)).map (· ++ "\n"))) [])

end Command

def Invocation.plan (invocation : Invocation) (lookup : Variables.Lookup)
    (text : Except Problem String) : Plan :=
  invocation.command.plan invocation.isCompact lookup text

end JsonExtract
