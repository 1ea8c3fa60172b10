import Mathlib.Data.List.Permutation
import JsonExtract.Command.Plan
import JsonExtract.Proofs.Http.Serving
import JsonExtract.Proofs.Specification.Environment
import JsonExtract.Proofs.Specification.Writing

/-!
# Commands that agree

A document can be picked from by way of three commands: from a file, from an address that serves
it, and by a specification that writes the address and the selectors.  All of them come to the
same report, also where the document is not valid.
-/

namespace JsonExtract

/-- What an invocation reports, `octets` being what the source of its command holds. -/
def Invocation.report (invocation : Invocation) (network : Http.Network)
    (lookup : Variables.Lookup) (octets : List UInt8) : Report :=
  let plan := invocation.plan lookup (invocation.command.source.text octets)
  (plan.perform .standard network).2

def View.reportOn (view : View) (selectors : List Selector) (coerces : Bool) (text : String) :
    Report :=
  view.conclude (((Json.ofText text).mapError .invalidJson).map fun document =>
    evaluate selectors document coerces)

theorem Source.text_encode (source : Source) (text : String) :
    source.text (Text.Utf8.encode text.toList) = .ok text := by
  simp only [Source.text, Text.Utf8.decode_encode, String.ofList_toList]

/-! ## Plans -/

namespace Command

theorem selectors_of_ne_nil {arguments : List String} (harguments : arguments ≠ []) :
    selectors arguments = arguments.mapM Selector.ofArgument := by
  simp [selectors, harguments]

theorem exists_selectors_eq_ok {arguments : List String} {accepted : List Selector}
    (haccepted : arguments.mapM Selector.ofArgument = .ok accepted) :
    ∃ chosen, selectors arguments = .ok chosen := by
  by_cases hempty : arguments = []
  · exact ⟨[.ofPath ""], by simp [selectors, hempty]⟩
  · exact ⟨accepted, (selectors_of_ne_nil hempty).trans haccepted⟩

variable {arguments : List String} {chosen : List Selector}

theorem plan_fetch (hchosen : selectors arguments = .ok chosen) (isCompact : Bool)
    (lookup : Variables.Lookup) (source : Except Problem String) (address : String)
    (coerces : Bool) (timeout : Nat) :
    (Command.fetch address arguments [] coerces timeout).plan isCompact lookup source =
      .job ⟨⟨address, .empty, timeout⟩, chosen, coerces⟩ ⟨arguments.isEmpty, isCompact⟩ := by
  simp only [plan, hchosen]
  rfl

theorem plan_pick (hchosen : selectors arguments = .ok chosen) (isCompact : Bool)
    (lookup : Variables.Lookup) (file : Option String) (coerces : Bool) (text : String) :
    (Command.pick file arguments coerces).plan isCompact lookup (.ok text) =
      .report (View.reportOn ⟨arguments.isEmpty, isCompact⟩ chosen coerces text) := by
  simp only [plan, hchosen, View.reportOn, bind, Except.bind]
  cases Json.ofText text with
  | error details => rfl
  | ok document => rfl

theorem plan_run {specification : Specification} {specText : String} {lookup : Variables.Lookup}
    (hload : Specification.load lookup specText = .ok specification) (isCompact : Bool)
    (file : String) :
    (Command.run file).plan isCompact lookup (.ok specText) =
      .job (.ofSpecification specification) ⟨false, isCompact⟩ := by
  simp only [plan, bind, Except.bind, hload]
  rfl

end Command

/-- A job without headers on an address that serves a text in time reports on the text. -/
theorem Plan.perform_job (work : Job) {network : Http.Network} {fields : List Http.Field}
    {text : String}
    (hserves : network.Serves work.request.timeout work.request.url fields text)
    (htype : Http.Field.find? "content-type" fields = none)
    (hmark : text.toList.head? ≠ some '\ufeff')
    (hheaders : work.request.headers = .empty) (view : View) :
    ((Plan.job work view).perform .standard network).2 =
      view.reportOn work.selectors work.coerces text := by
  have hsendable : ∀ entry ∈ work.request.headers.entries,
      Http.Field.isSendable entry.1 entry.2 = true := by
    rw [hheaders]
    intro entry hentry
    contradiction
  have hreply := Http.Client.fetch_of_serves hserves htype hmark hsendable
  simp only [perform, hreply, Job.finish, View.reportOn]

/-! ## Reports -/

namespace Invocation

variable {network : Http.Network} {address text : String} {fields : List Http.Field}
  {arguments : List String} {chosen : List Selector}

theorem report_pick (hchosen : Command.selectors arguments = .ok chosen)
    (isCompact coerces : Bool) (file : Option String) (network : Http.Network)
    (lookup : Variables.Lookup) (text : String) :
    (Invocation.mk isCompact (.pick file arguments coerces)).report network lookup
        (Text.Utf8.encode text.toList) =
      View.reportOn ⟨arguments.isEmpty, isCompact⟩ chosen coerces text := by
  rw [report, plan, Source.text_encode, Command.plan_pick hchosen, Plan.perform]

theorem report_fetch (hchosen : Command.selectors arguments = .ok chosen)
    {timeout : Nat} (hserves : network.Serves timeout address fields text)
    (htype : Http.Field.find? "content-type" fields = none)
    (hmark : text.toList.head? ≠ some '\ufeff')
    (isCompact coerces : Bool) (lookup : Variables.Lookup) (octets : List UInt8) :
    (Invocation.mk isCompact (.fetch address arguments [] coerces timeout)).report network lookup
        octets =
      View.reportOn ⟨arguments.isEmpty, isCompact⟩ chosen coerces text := by
  rw [report, plan, Command.plan_fetch hchosen]
  exact Plan.perform_job ⟨⟨address, .empty, timeout⟩, chosen, coerces⟩ hserves htype hmark rfl _

theorem report_run {specification : Specification} {specText : String}
    {lookup : Variables.Lookup}
    (hload : Specification.load lookup specText = .ok specification)
    (hserves : network.Serves specification.allowedTime specification.url fields text)
    (htype : Http.Field.find? "content-type" fields = none)
    (hmark : text.toList.head? ≠ some '\ufeff') (hheaders : specification.headers = .empty)
    (isCompact : Bool) (file : String) :
    (Invocation.mk isCompact (.run file)).report network lookup
        (Text.Utf8.encode specText.toList) =
      View.reportOn ⟨false, isCompact⟩ specification.selectors specification.coerces text := by
  rw [report, plan, Source.text_encode, Command.plan_run hload]
  exact Plan.perform_job (.ofSpecification specification) hserves htype hmark hheaders _

/-- A default without room ends the run before anything is fetched. -/
theorem report_run_of_not_nestsWithin {specification : Specification} {specText : String}
    (hwritten : specification.WrittenIn specText)
    (hdeep : ¬ Selector.DefaultsNestWithin Specification.defaultNestingLimit
      specification.selectors) (isCompact : Bool) (file : String) (network : Http.Network)
    (lookup : Variables.Lookup) :
    ∃ details, (Invocation.mk isCompact (.run file)).report network lookup
      (Text.Utf8.encode specText.toList) = .ofProblem (.invalidSpec details) := by
  obtain ⟨details, hread⟩ := Specification.ofText_of_not_nestsWithin hwritten hdeep
  refine ⟨details, ?_⟩
  rw [report, plan, Source.text_encode]
  simp only [Command.plan, Specification.load, hread, bind, Except.bind]
  rfl

/-- One text, three ways to it.  Whatever selectors the arguments give, picking from a file with
the text and fetching an address that serves the text in time come to the same report.  If there
are selectors, a specification that writes the address, the selectors and the way with numeric
strings comes to the same report too, as long as the address serves the text in the usual time and
refers to no variable and no default has more containers inside each other than a specification
has room for. -/
theorem reports_agree {selectors : List Selector} {timeout : Nat}
    (hmark : text.toList.head? ≠ some '\ufeff')
    (haccepted : arguments.mapM Selector.ofArgument = .ok selectors)
    (hserves : network.Serves timeout address fields text)
    (htype : Http.Field.find? "content-type" fields = none) (isCompact coerces : Bool)
    (lookup : Variables.Lookup) (octets : List UInt8) (file : Option String) :
    let picked := (Invocation.mk isCompact (.pick file arguments coerces)).report network lookup
      (Text.Utf8.encode text.toList)
    (Invocation.mk isCompact (.fetch address arguments [] coerces timeout)).report network lookup
        octets = picked ∧
      ∀ specFile specText, arguments ≠ [] →
        (Specification.mk address .empty none coerces selectors).WrittenIn specText →
        network.Serves defaultTimeout address fields text →
        Variables.references address.toList = [] →
        Selector.DefaultsNestWithin Specification.defaultNestingLimit selectors →
        (Invocation.mk isCompact (.run specFile)).report network lookup
          (Text.Utf8.encode specText.toList) = picked := by
  intro picked
  obtain ⟨chosen, hchosen⟩ := Command.exists_selectors_eq_ok haccepted
  have hpicked : picked = View.reportOn ⟨arguments.isEmpty, isCompact⟩ chosen coerces text :=
    report_pick hchosen isCompact coerces file network lookup text
  constructor
  · rw [hpicked]
    exact report_fetch hchosen hserves htype hmark isCompact coerces lookup octets
  · intro specFile specText hsome hwritten husual hnone hroom
    have hread := Specification.ofText_of_writtenIn hwritten hroom
    have hload := Specification.load_of_references_eq_nil hread rfl hnone lookup
    have hchosen' : selectors = chosen := by
      rw [Command.selectors_of_ne_nil hsome, haccepted] at hchosen
      exact Except.ok.inj hchosen
    rw [hpicked, List.isEmpty_eq_false_iff.mpr hsome, ← hchosen']
    exact report_run hload husual htype hmark rfl isCompact specFile

end Invocation

/-! ## Defaults of any depth

One selector with a default of so many arrays inside each other, as an argument and in a
specification, and a network where every call is answered. -/

open Yaml (Node)

namespace NestedDefault

def text (depth : Nat) : List Char :=
  List.replicate (depth + 1) '[' ++ List.replicate (depth + 1) ']'

def arguments (depth : Nat) : List String :=
  [String.ofList ("a=a ?? ".toList ++ text depth)]

def selectors (depth : Nat) : List Selector :=
  [⟨"a", "a", some (.nested depth), none⟩]

def address : String := "http://h/d"

def specification (depth : Nat) : Specification :=
  ⟨address, .empty, none, false, selectors depth⟩

def specText (depth : Nat) : String :=
  String.ofList ("url: http://h/d\nselectors:\n- \x7bkey: a, path: a, default: ".toList ++
    text depth ++ ['\x7d'])

def isRoot (depth : Nat) : Node → Bool
  | .mapping _ none [
      (.scalar _ _ "url" _, .scalar _ _ "http://h/d" _),
      (.scalar _ _ "selectors" _, .sequence _ none [.mapping _ none [
        (.scalar _ _ "key" _, .scalar _ _ "a" _),
        (.scalar _ _ "path" _, .scalar _ _ "a" _),
        (.scalar _ _ "default" _, node)]])] => node.isNested depth
  | _ => false

def isWritten (depth : Nat) : Except Yaml.Malformed Yaml.Document → Bool
  | .ok document => document.root.any (isRoot depth)
  | .error _ => false

theorem writtenAs_of_isRoot {depth : Nat} {root : Node} (hroot : isRoot depth root = true) :
    (specification depth).WrittenAs root := by
  unfold isRoot at hroot
  split at hroot
  · rename_i node
    refine @Specification.WrittenAs.mapping _ _ [.url, .selectors] _ (by decide) (by decide)
      (by decide) (.inr rfl) rfl rfl ?_
    refine .cons ⟨rfl, rfl⟩ (.cons ⟨rfl, .cons ?_ .nil⟩ .nil)
    refine @Selector.WrittenAs.mapping _ _ [.key, .path, .default] _ (by decide) (by decide)
      (by decide) (by simp) rfl ?_
    have hdefault := Yaml.Node.writes_of_isNested hroot
    exact .cons ⟨rfl, rfl⟩ (.cons ⟨rfl, rfl⟩ (.cons ⟨rfl, _, rfl, hdefault⟩ .nil))
  · contradiction

theorem writtenIn_of_isWritten {depth : Nat} {text : String}
    (hwritten : isWritten depth (Yaml.Document.ofText text) = true) :
    (specification depth).WrittenIn text := by
  have hpasses : Specification.rootPasses (isRoot depth) (Yaml.Document.ofText text) = true :=
    hwritten
  obtain ⟨document, root, hread, hroot, his⟩ := Specification.exists_root_of_rootPasses hpasses
  exact ⟨document, root, hread, hroot, writtenAs_of_isRoot his⟩

theorem defaultsNestWithin_selectors {depth limit : Nat} :
    Selector.DefaultsNestWithin limit (selectors depth) ↔ depth < limit := by
  simp [Selector.DefaultsNestWithin, selectors, Json.nestsWithin_nested]

/-- Every call is answered with an empty object, and all of it takes some time. -/
def network : Http.Network := fun _ =>
  .after 100 (.taken (.after 200 (.response (.ofText [] 300 "\x7b\x7d"))))

theorem network_serves {limit : Nat} (hlimit : 600 < limit) :
    network.Serves limit address [] "\x7b\x7d" := by
  have hrequestable : ((Url.ofWebText address).toOption.any fun url =>
      (Http.Client.addressee url).isRequestable) = true := by decide +kernel
  cases hurl : Url.ofWebText address with
  | error problem =>
      rw [hurl] at hrequestable
      contradiction
  | ok url =>
      rw [hurl] at hrequestable
      exact ⟨url, hurl, hrequestable, fun _ => ⟨100, 200, 300, rfl, by decide, hlimit⟩⟩

def report (command : Command) (octets : List UInt8) : Report :=
  (Invocation.mk true command).report network (fun _ => none) octets

theorem report_pick_status {depth : Nat}
    (haccepted : (arguments depth).mapM Selector.ofArgument = .ok (selectors depth)) :
    (report (.pick none (arguments depth) false)
      (Text.Utf8.encode "\x7b\x7d".toList)).status = 0 := by
  have hchosen : Command.selectors (arguments depth) = .ok (selectors depth) := by
    rw [Command.selectors_of_ne_nil (by simp [arguments]), haccepted]
  have hdocument : Json.ofText "\x7b\x7d" = .ok (.object []) := by cbv
  rw [report, Invocation.report_pick hchosen, View.reportOn, hdocument]
  rfl

set_option maxRecDepth 10000 in
theorem reports_agree_twoArrays :
    let picked := report (.pick none (arguments 1) false) (Text.Utf8.encode "\x7b\x7d".toList)
    report (.fetch address (arguments 1) [] false 1000) [] = picked ∧
      report (.run "spec.yaml") (Text.Utf8.encode (specText 1).toList) = picked := by
  have haccepted : (arguments 1).mapM Selector.ofArgument = .ok (selectors 1) := by cbv
  have hwritten : (specification 1).WrittenIn (specText 1) :=
    writtenIn_of_isWritten (by decide +kernel)
  have hroom : Selector.DefaultsNestWithin Specification.defaultNestingLimit (selectors 1) :=
    defaultsNestWithin_selectors.mpr (by decide)
  have hserves : network.Serves 1000 address [] "\x7b\x7d" := network_serves (by decide)
  have husual : network.Serves defaultTimeout address [] "\x7b\x7d" :=
    network_serves (by decide)
  have hagree := Invocation.reports_agree (by decide) haccepted hserves rfl true false
    (fun _ => none) [] none
  exact ⟨hagree.1, hagree.2 "spec.yaml" _ (by decide) hwritten husual (by decide +kernel) hroom⟩

set_option maxRecDepth 100000 in
/-- With one array more than a specification has room for, the run fails where picking from a
file succeeds. -/
theorem reports_disagree_manyArrays :
    (arguments 125).mapM Selector.ofArgument = .ok (selectors 125) ∧
      network.Serves defaultTimeout address [] "\x7b\x7d" ∧
      Variables.references address.toList = [] ∧
      (specification 125).WrittenIn (specText 125) ∧
      (report (.pick none (arguments 125) false)
        (Text.Utf8.encode "\x7b\x7d".toList)).status = 0 ∧
      (report (.run "spec.yaml") (Text.Utf8.encode (specText 125).toList)).status = 1 := by
  have haccepted : (arguments 125).mapM Selector.ofArgument = .ok (selectors 125) := by cbv
  have hwritten : (specification 125).WrittenIn (specText 125) := by
    apply writtenIn_of_isWritten
    -- The characters are given to the lexer as they are: making a text of them only to take it
    -- apart again would double the time of the check.
    unfold Yaml.Document.ofText Yaml.tokens specText
    rw [String.toList_ofList]
    decide +kernel
  have hdeep : ¬ Selector.DefaultsNestWithin Specification.defaultNestingLimit (selectors 125) :=
    mt defaultsNestWithin_selectors.mp (by decide)
  obtain ⟨details, hrun⟩ := Invocation.report_run_of_not_nestsWithin hwritten hdeep true
    "spec.yaml" network (fun _ => none)
  refine ⟨haccepted, network_serves (by decide), by decide +kernel, hwritten,
    report_pick_status haccepted, ?_⟩
  rw [report, hrun]
  rfl

end NestedDefault

end JsonExtract
