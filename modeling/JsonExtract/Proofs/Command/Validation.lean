import JsonExtract.Command.Plan
import JsonExtract.Proofs.Http.Classification
import JsonExtract.Proofs.Problem
import JsonExtract.Proofs.Specification.Environment

/-!
# Checks before requests

A command that fetches is checked before anything is sent: its arguments, its file and the
variables by the plan that is made for it, and the address by the client.  A bad command fails
without a call.  A good one asks its transport once, for the document that it names, and passes
on the problem that this may come to.
-/

namespace JsonExtract

/-- A transport that also writes down what it is asked. -/
def Transport.recording (transport : Transport) (request : Request) :
    StateM (List Request) (Except Problem Json) := do
  modify (· ++ [request])
  return transport request

namespace Plan

/-- The report, documents being fetched by a transport that may have effects. -/
def runIn {m : Type → Type} [Monad m] (transport : Request → m (Except Problem Json)) :
    Plan → m Report
  | .report settled => return settled
  | .job work view => return view.conclude (work.finish (← transport work.request))

/-- Whether a plan comes to the report of a problem without a call. -/
def FailsWith (plan : Plan) (problem : Problem) : Prop :=
  ∀ client network, plan.perform client network =
    ([], ⟨1, "", ["Error: " ++ problem.message, "  Fix: " ++ problem.advice]⟩)

/-- Whether a plan asks for one document, and only once. -/
structure AsksOnce (plan : Plan) (request : Request) : Prop where
  /-- Nothing else is asked of a transport. -/
  requests (transport : Transport) :
    (plan.runIn transport.recording).run [] = (plan.run transport, [request])
  /-- A client makes the calls of this one request. -/
  calls (client : Http.Client) (network : Http.Network) :
    plan.perform client network =
      ((client.fetch network request).1, plan.run (client.transport network))
  /-- The problem of the transport is that of the plan. -/
  fails (transport : Transport) (problem : Problem) (hfails : transport request = .error problem) :
    plan.run transport = ⟨1, "", ["Error: " ++ problem.message, "  Fix: " ++ problem.advice]⟩

theorem failsWith_report (problem : Problem) : (report (.ofProblem problem)).FailsWith problem :=
  fun _ _ => rfl

theorem asksOnce_job (work : Job) (view : View) : (job work view).AsksOnce work.request where
  requests _ := rfl
  calls _ _ := rfl
  fails transport problem hfails := by
    rw [run, Job.run, hfails]
    rfl

/-- A job on what is no address of the web ends with the client. -/
theorem failsWith_job (work : Job) {problem : Problem}
    (hurl : Url.ofWebText work.request.url = .error problem) (view : View) :
    (job work view).FailsWith problem := by
  intro client network
  have hfetch : client.fetch network work.request = ([], .error problem) := by
    rw [Http.Client.fetch, hurl]
  rw [perform, hfetch]
  rfl

theorem failsWith_ofExcept_error (problem : Problem) :
    (ofExcept (.error problem)).FailsWith problem :=
  failsWith_report problem

end Plan

namespace Command

/-! ## Fetching -/

/-- All that is wrong with a fetch, from left to right: first selectors, then headers, then the
address. -/
def fetchFaults (url : String) (arguments headerArguments : List String) : List Problem :=
  (arguments.filterMap fun argument => Problem.ofResult? (Selector.ofArgument argument)) ++
    (headerArguments.filterMap fun argument => Problem.ofResult? (header argument)) ++
    (Problem.ofResult? (Url.ofWebText url)).toList

theorem ofResult?_selectors (arguments : List String) :
    Problem.ofResult? (selectors arguments) =
      (arguments.filterMap fun argument =>
        Problem.ofResult? (Selector.ofArgument argument)).head? := by
  rw [List.head?_filterMap, ← Problem.ofResult?_mapM]
  cases arguments <;> rfl

theorem ofResult?_headers (arguments : List String) :
    Problem.ofResult? (headers arguments) =
      (arguments.filterMap fun argument => Problem.ofResult? (header argument)).head? := by
  rw [headers, Problem.ofResult?_map, Problem.ofResult?_mapM, List.head?_filterMap]

theorem head?_fetchFaults (url : String) (arguments headerArguments : List String) :
    (fetchFaults url arguments headerArguments).head? =
      ((Problem.ofResult? (selectors arguments)).or
        (Problem.ofResult? (headers headerArguments))).or
        (Problem.ofResult? (Url.ofWebText url)) := by
  rw [fetchFaults, List.head?_append, List.head?_append, ofResult?_selectors, ofResult?_headers]
  cases Problem.ofResult? (Url.ofWebText url) <;> rfl

section

variable {url : String} {arguments headerArguments : List String}

theorem plan_fetch_eq (isCompact coerces : Bool) (timeout : Nat) (lookup : Variables.Lookup)
    (text : Except Problem String) :
    (Command.fetch url arguments headerArguments coerces timeout).plan isCompact lookup text =
      .ofExcept ((selectors arguments).bind fun chosen =>
        (headers headerArguments).map fun fields =>
          .job ⟨⟨url, fields, timeout⟩, chosen, coerces⟩ ⟨arguments.isEmpty, isCompact⟩) := by
  simp only [plan]
  cases selectors arguments with
  | error problem => rfl
  | ok chosen => cases headers headerArguments <;> rfl

theorem plan_fetch_fails {problem : Problem}
    (hfault : (fetchFaults url arguments headerArguments).head? = some problem)
    (isCompact coerces : Bool) (timeout : Nat) (lookup : Variables.Lookup)
    (text : Except Problem String) :
    ((Command.fetch url arguments headerArguments coerces timeout).plan isCompact lookup
      text).FailsWith problem := by
  rw [head?_fetchFaults] at hfault
  rw [plan_fetch_eq]
  cases hselectors : selectors arguments with
  | error first =>
      obtain rfl : first = problem := by simpa [hselectors, Problem.ofResult?] using hfault
      exact Plan.failsWith_ofExcept_error first
  | ok chosen =>
      cases hheaders : headers headerArguments with
      | error first =>
          obtain rfl : first = problem := by
            simpa [hselectors, hheaders, Problem.ofResult?] using hfault
          exact Plan.failsWith_ofExcept_error first
      | ok fields =>
          -- There is a plan for this, and it is the client that refuses the address.
          have hurl : Problem.ofResult? (Url.ofWebText url) = some problem := by
            simpa [hselectors, hheaders, Problem.ofResult?] using hfault
          rw [Problem.ofResult?_eq_some_iff] at hurl
          exact Plan.failsWith_job ⟨⟨url, fields, timeout⟩, chosen, coerces⟩ hurl _

theorem plan_fetch_asks (hnone : fetchFaults url arguments headerArguments = [])
    (isCompact coerces : Bool) (timeout : Nat) (lookup : Variables.Lookup)
    (text : Except Problem String) :
    ∃ entries, headerArguments.mapM header = .ok entries ∧
      ((Command.fetch url arguments headerArguments coerces timeout).plan isCompact lookup
        text).AsksOnce ⟨url, .ofList entries, timeout⟩ := by
  have hhead := head?_fetchFaults url arguments headerArguments
  rw [hnone, List.head?_nil, eq_comm, Option.or_eq_none_iff, Option.or_eq_none_iff,
    Problem.ofResult?_eq_none_iff, headers, Problem.ofResult?_map,
    Problem.ofResult?_eq_none_iff] at hhead
  obtain ⟨⟨⟨chosen, hselectors⟩, entries, hentries⟩, _⟩ := hhead
  refine ⟨entries, hentries, ?_⟩
  rw [plan_fetch_eq, hselectors, headers, hentries]
  exact Plan.asksOnce_job ⟨⟨url, .ofList entries, timeout⟩, chosen, coerces⟩ _

end

/-! ## Running specifications -/

/-- What can be wrong with a run before anything is sent: the file, its form, a variable that it
refers to, or the address that it comes to. -/
inductive RunFault (lookup : Variables.Lookup) (text : Except Problem String) : Problem → Prop where
  | unreadable {problem : Problem} (htext : text = .error problem) : RunFault lookup text problem
  | malformed {written : String} {problem : Problem} (htext : text = .ok written)
      (hread : Specification.ofText written = .error problem) : RunFault lookup text problem
  | unset {written name : String} {specification : Specification} (htext : text = .ok written)
      (hread : Specification.ofText written = .ok specification)
      (hname : name ∈ specification.references) (hunset : lookup name = none) :
      RunFault lookup text (.missingVariable name)
  | foreign {written : String} {specification : Specification} {problem : Problem}
      (htext : text = .ok written) (hload : Specification.load lookup written = .ok specification)
      (hurl : Url.ofWebText specification.url = .error problem) : RunFault lookup text problem

section

variable {lookup : Variables.Lookup} {text : Except Problem String} {written : String}

theorem runFault_of_load_eq_error {problem : Problem} (htext : text = .ok written)
    (hload : Specification.load lookup written = .error problem) :
    RunFault lookup text problem := by
  cases hread : Specification.ofText written with
  | error first =>
      obtain rfl : first = problem := by
        simpa [Specification.load, hread, bind, Except.bind] using hload
      exact .malformed htext hread
  | ok specification =>
      have hunset : Variables.unset? lookup specification.references = some problem := by
        rw [← Specification.ofResult?_expand, ← Specification.load_of_ofText hread, hload]
        rfl
      obtain ⟨name, hfind, rfl⟩ := Option.map_eq_some_iff.mp hunset
      exact .unset htext hread (List.mem_of_find?_eq_some hfind)
        (by simpa using List.find?_some hfind)

theorem not_runFault {specification : Specification} {url : Url} {problem : Problem}
    (htext : text = .ok written) (hload : Specification.load lookup written = .ok specification)
    (hurl : Url.ofWebText specification.url = .ok url) : ¬ RunFault lookup text problem := by
  intro hfault
  subst htext
  cases hfault with
  | unreadable htext => contradiction
  | malformed htext hread =>
      cases htext
      simp [Specification.load, hread, bind, Except.bind] at hload
  | unset htext hread hname hunset =>
      cases htext
      rw [Specification.load_of_ofText hread] at hload
      have hall := Problem.ofResult?_eq_none_iff.mpr ⟨_, hload⟩
      rw [Specification.ofResult?_expand, Variables.unset?_eq_none_iff] at hall
      exact hall _ hname hunset
  | foreign htext hother hbad =>
      cases htext
      cases hload.symm.trans hother
      cases hurl.symm.trans hbad

theorem plan_run_eq (isCompact : Bool) (file : String) (lookup : Variables.Lookup)
    (text : Except Problem String) :
    (Command.run file).plan isCompact lookup text =
      .ofExcept ((text.bind (Specification.load lookup)).map fun specification =>
        .job (.ofSpecification specification) ⟨false, isCompact⟩) := by
  simp only [plan]
  cases text with
  | error problem => rfl
  | ok written =>
      simp only [bind, Except.bind]
      cases Specification.load lookup written <;> rfl

theorem plan_run_cases (isCompact : Bool) (file : String) (lookup : Variables.Lookup)
    (text : Except Problem String) :
    (∃ problem, RunFault lookup text problem ∧
      ((Command.run file).plan isCompact lookup text).FailsWith problem) ∨
    (∀ problem, ¬ RunFault lookup text problem) ∧ ∃ written specification,
      text = .ok written ∧ Specification.load lookup written = .ok specification ∧
      ((Command.run file).plan isCompact lookup text).AsksOnce
        ⟨specification.url, specification.headers, specification.allowedTime⟩ := by
  rw [plan_run_eq]
  cases text with
  | error problem =>
      exact .inl ⟨problem, .unreadable rfl, Plan.failsWith_ofExcept_error problem⟩
  | ok written =>
      rw [Except.bind]
      cases hload : Specification.load lookup written with
      | error problem =>
          exact .inl ⟨problem, runFault_of_load_eq_error rfl hload,
            Plan.failsWith_ofExcept_error problem⟩
      | ok specification =>
          cases hurl : Url.ofWebText specification.url with
          | error problem =>
              exact .inl ⟨problem, .foreign rfl hload hurl,
                Plan.failsWith_job (.ofSpecification specification) hurl _⟩
          | ok url =>
              exact .inr ⟨fun _ => not_runFault rfl hload hurl, written, specification, rfl, hload,
                Plan.asksOnce_job (.ofSpecification specification) _⟩

end

/-- A bad fetch or run fails without a call, a fetch with the first of its faults.  A good one
asks its transport for the document at exactly its address, with its headers and its time, and
only once. -/
theorem checked_before_asking (isCompact : Bool) (lookup : Variables.Lookup)
    (text : Except Problem String) :
    (∀ url arguments headerArguments coerces timeout,
      let plan := (Command.fetch url arguments headerArguments coerces timeout).plan isCompact
        lookup text
      (∀ problem, (fetchFaults url arguments headerArguments).head? = some problem →
        plan.FailsWith problem) ∧
      (fetchFaults url arguments headerArguments = [] →
        ∃ entries, headerArguments.mapM header = .ok entries ∧
          plan.AsksOnce ⟨url, .ofList entries, timeout⟩)) ∧
    ∀ file,
      let plan := (Command.run file).plan isCompact lookup text
      ((∃ problem, RunFault lookup text problem) →
        ∃ problem, RunFault lookup text problem ∧ plan.FailsWith problem) ∧
      ((∀ problem, ¬ RunFault lookup text problem) →
        ∃ written specification, text = .ok written ∧
          Specification.load lookup written = .ok specification ∧
          plan.AsksOnce
            ⟨specification.url, specification.headers, specification.allowedTime⟩) := by
  constructor
  · intro url arguments headerArguments coerces timeout
    exact ⟨fun _ hfault => plan_fetch_fails hfault isCompact coerces timeout lookup text,
      fun hnone => plan_fetch_asks hnone isCompact coerces timeout lookup text⟩
  · intro file
    rcases plan_run_cases isCompact file lookup text with hbad | ⟨hgood, hasks⟩
    · obtain ⟨problem, hfault, hfails⟩ := hbad
      exact ⟨fun _ => ⟨problem, hfault, hfails⟩, fun hnone => absurd hfault (hnone problem)⟩
    · exact ⟨fun ⟨problem, hfault⟩ => absurd hfault (hgood problem), fun _ => hasks⟩

theorem not_runFault_of_isOk {lookup : Variables.Lookup} {written : String}
    (hok : ((Specification.load lookup written).bind fun specification =>
      Url.ofWebText specification.url).isOk = true) (problem : Problem) :
    ¬ RunFault lookup (.ok written) problem := by
  cases hload : Specification.load lookup written with
  | error first =>
      rw [hload] at hok
      contradiction
  | ok specification =>
      cases hurl : Url.ofWebText specification.url with
      | error first =>
          rw [hload, Except.bind, hurl] at hok
          contradiction
      | ok url => exact not_runFault rfl hload hurl

/-- A fetch with faults of all kinds, a good fetch, a run whose file is not there, and a good
run. -/
theorem checked_before_asking_instances :
    let unset : Variables.Lookup := fun _ => none
    ((Command.fetch "nowhere" ["a", "=b", "c ??"] ["x"] false 250).plan true unset
      (.ok "")).FailsWith (.invalidSelector "=b") ∧
    (∃ entries, ["X: y"].mapM header = .ok entries ∧
      ((Command.fetch "http://a/" ["a"] ["X: y"] false 250).plan true unset (.ok "")).AsksOnce
        ⟨"http://a/", .ofList entries, 250⟩) ∧
    (∃ problem, RunFault unset (.error (.io "gone")) problem ∧
      ((Command.run "a.yaml").plan true unset (.error (.io "gone"))).FailsWith problem) ∧
    ∃ written specification,
      .ok "url: http://a/\nselectors: [a]" = (.ok written : Except Problem String) ∧
      Specification.load unset written = .ok specification ∧
      ((Command.run "a.yaml").plan true unset (.ok "url: http://a/\nselectors: [a]")).AsksOnce
        ⟨specification.url, specification.headers, specification.allowedTime⟩ := by
  intro unset
  refine ⟨?faulty, ?good, ?unreadable, ?readable⟩
  case faulty =>
    exact ((checked_before_asking true unset (.ok "")).1 "nowhere" _ ["x"] false 250).1 _
      (by decide +kernel)
  case good =>
    exact ((checked_before_asking true unset (.ok "")).1 "http://a/" _ _ false 250).2
      (by decide +kernel)
  case unreadable =>
    exact ((checked_before_asking true unset (.error (.io "gone"))).2 "a.yaml").1
      ⟨_, .unreadable rfl⟩
  case readable =>
    exact ((checked_before_asking true unset _).2 "a.yaml").2
      (not_runFault_of_isOk (by decide +kernel))

end Command

end JsonExtract
