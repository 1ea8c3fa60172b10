import Mathlib.Data.List.Permutation
import JsonExtract.Proofs.Command.Validation
import JsonExtract.Proofs.Json.Writing
import JsonExtract.Proofs.Picked
import JsonExtract.Proofs.Selector.Evaluation

/-!
# Every key is accounted for

A command that succeeds has picked from a document.  With selectors, each of their keys is either
the name of a member of the object on the standard output or in one of the notes, and never both.
Without selectors, the document itself is on the standard output, and there is nothing to note.
What is on the standard output is a text of the object or of the document.
-/

namespace JsonExtract

/-! ## Keys of selectors -/

/-- Whether the last selector with a key picks this from a document. -/
def Selector.LastPicks (selectors : List Selector) (coerces : Bool) (document : Json)
    (key : String) (picked : Option Json) : Prop :=
  ∃ before selector after, selectors = before ++ selector :: after ∧ selector.key = key ∧
    (∀ later ∈ after, later.key ≠ key) ∧ selector.Picks coerces document picked

theorem entry?_evaluate_eq_some_iff {selectors : List Selector} {coerces : Bool} {document : Json}
    {key : String} {picked : Option Json} :
    Picked.entry? (evaluate selectors document coerces) key = some picked ↔
      Selector.LastPicks selectors coerces document key picked := by
  simp only [entry?_evaluate, get?_reverse_outcomes_eq_some_iff, Selector.LastPicks,
    Selector.picks_iff]

theorem getD_value?_evaluate_ofPath (document : Json) (coerces : Bool) :
    (Picked.value? (evaluate [.ofPath ""] document coerces) "").getD .null =
      if coerces then document.coerce else document := by
  have hvalue : Picked.value? (evaluate [.ofPath ""] document coerces) "" =
      (Selector.ofPath "").outcome coerces document := by
    unfold Picked.value? Picked.entry?
    simp [evaluate, Picked.empty, Selector.ofPath]
  have hsteps : Path.tokenize "" = [] := by decide +kernel
  rw [hvalue]
  unfold Selector.outcome Selector.choose Path.pick
  simp only [Selector.ofPath, hsteps, Path.resolve]
  -- A selector takes null for nothing, and only the default at the end brings it back.
  by_cases hnull : document = .null
  · subst hnull
    cases coerces <;> rfl
  · have hkept : document.isNull = false := Json.isNull_eq_false_iff.mpr hnull
    cases coerces <;> simp [Option.filter, hkept]

/-! ## Reports -/

namespace Report

/-- Whether a report of success shows all that selectors pick: the text of an object with a member
for each key with a value, notes on all other keys, both in the order in which the keys first
occur. -/
def AccountsFor (report : Report) (isCompact : Bool) (selectors : List Selector) (coerces : Bool)
    (document : Json) : Prop :=
  let keys := (selectors.map Selector.key).eraseDups
  ∃ members missing,
    report.status = 0 ∧
    report.output = (if isCompact then (Json.object members).compact
      else (Json.object members).indented) ++ "\n" ∧
    Json.IsTextOf report.output.toList (.object members) ∧
    report.notes = missing.map View.unresolvedNote ∧
    (Keyed.keys members).Sublist keys ∧ missing.Sublist keys ∧
    (Keyed.keys members ++ missing).Perm keys ∧
    (∀ key value, (key, value) ∈ members ↔
      Selector.LastPicks selectors coerces document key (some value)) ∧
    ∀ key, key ∈ missing ↔ Selector.LastPicks selectors coerces document key none

end Report

theorem View.report_accountsFor (isCompact : Bool) (selectors : List Selector) (coerces : Bool)
    (document : Json) :
    (View.report ⟨false, isCompact⟩ (evaluate selectors document coerces)).AccountsFor isCompact
      selectors coerces document := by
  let picked := evaluate selectors document coerces
  have hkeys : picked.keys = (selectors.map Selector.key).eraseDups :=
    keys_evaluate selectors coerces document
  refine ⟨picked.members, picked.unresolved, rfl, rfl,
    Json.isTextOf_form_newline (.object picked.members) isCompact, rfl, ?_, ?_, ?_, ?_, ?_⟩
  · rw [← hkeys, Picked.keys_members]
    exact List.filter_sublist
  · rw [← hkeys, Picked.unresolved_eq_filter]
    exact List.filter_sublist
  · rw [← hkeys]
    exact picked.keys_members_append_unresolved_perm
  · intro key value
    rw [Picked.mem_members_iff, entry?_evaluate_eq_some_iff]
  · intro key
    rw [Picked.mem_unresolved_iff, entry?_evaluate_eq_some_iff]

theorem View.report_whole (isCompact coerces : Bool) (document : Json) :
    View.report ⟨true, isCompact⟩ (evaluate [.ofPath ""] document coerces) =
      let shown := if coerces then document.coerce else document
      ⟨0, (if isCompact then shown.compact else shown.indented) ++ "\n", []⟩ := by
  have hshown : View.document ⟨true, isCompact⟩ (evaluate [.ofPath ""] document coerces) =
      if coerces then document.coerce else document :=
    getD_value?_evaluate_ofPath document coerces
  rw [View.report, hshown]
  rfl

/-! ## Success -/

namespace Plan

variable {client : Http.Client} {network : Http.Network}

theorem exists_of_status_ofExcept {result : Except Problem Plan}
    (hstatus : ((ofExcept result).perform client network).2.status = 0) :
    ∃ plan, result = .ok plan ∧ (plan.perform client network).2.status = 0 := by
  cases result with
  | error problem => contradiction
  | ok plan => exact ⟨plan, rfl, hstatus⟩

theorem exists_reply_of_status_job {work : Job} {view : View}
    (hstatus : ((job work view).perform client network).2.status = 0) :
    ∃ document, (client.fetch network work.request).2 = .ok document := by
  cases hreply : (client.fetch network work.request).2 with
  | error problem =>
      simp only [perform, hreply] at hstatus
      contradiction
  | ok document => exact ⟨document, rfl⟩

end Plan

/-! ## Commands -/

namespace Command

/-- Whether a command gets so far as to pick with selectors from a document. -/
inductive Selects (client : Http.Client) (network : Http.Network) (lookup : Variables.Lookup)
    (text : Except Problem String) : Command → List Selector → Bool → Json → Prop where
  | fetch {url : String} {arguments headerArguments : List String} {coerces : Bool}
      {timeout : Nat} {selectors : List Selector} {entries : List (String × String)}
      {document : Json} (hselectors : arguments.mapM Selector.ofArgument = .ok selectors)
      (hheaders : headerArguments.mapM header = .ok entries)
      (hreply : (client.fetch network ⟨url, .ofList entries, timeout⟩).2 = .ok document) :
      Selects client network lookup text (.fetch url arguments headerArguments coerces timeout)
        selectors coerces document
  | run {file written : String} {specification : Specification} {document : Json}
      (htext : text = .ok written) (hload : Specification.load lookup written = .ok specification)
      (hreply : (client.fetch network ⟨specification.url, specification.headers,
        specification.allowedTime⟩).2 = .ok document) :
      Selects client network lookup text (.run file) specification.selectors
        specification.coerces document
  | pick {file : Option String} {arguments : List String} {coerces : Bool} {written : String}
      {selectors : List Selector} {document : Json} (htext : text = .ok written)
      (hdocument : Json.ofText written = .ok document)
      (hselectors : arguments.mapM Selector.ofArgument = .ok selectors) :
      Selects client network lookup text (.pick file arguments coerces) selectors coerces document

/-- Whether a command shows the document as a whole when given these selectors. -/
def showsWhole (selectors : List Selector) : Command → Bool
  | .fetch .. | .pick .. => selectors.isEmpty
  | .run _ | .tokenize _ => false

section

variable {arguments : List String}

theorem selectors_of_mapM {given : List Selector}
    (hgiven : arguments.mapM Selector.ofArgument = .ok given) :
    selectors arguments = .ok (if given.isEmpty then [.ofPath ""] else given) ∧
      arguments.isEmpty = given.isEmpty := by
  cases arguments with
  | nil =>
      cases hgiven
      exact ⟨rfl, rfl⟩
  | cons argument rest =>
      have hsome : given.isEmpty = false := by
        rw [List.mapM_cons] at hgiven
        cases hfirst : Selector.ofArgument argument with
        | error problem => simp [hfirst, bind, Except.bind] at hgiven
        | ok first =>
            cases hrest : rest.mapM Selector.ofArgument with
            | error problem => simp [hfirst, hrest, bind, Except.bind] at hgiven
            | ok others =>
                rw [hfirst, hrest] at hgiven
                cases hgiven
                rfl
      rw [hsome]
      exact ⟨hgiven, rfl⟩

theorem exists_mapM_of_selectors {chosen : List Selector}
    (hchosen : selectors arguments = .ok chosen) :
    ∃ given, arguments.mapM Selector.ofArgument = .ok given := by
  cases arguments with
  | nil => exact ⟨[], rfl⟩
  | cons argument rest => exact ⟨chosen, hchosen⟩

end

theorem plan_pick_eq (file : Option String) (arguments : List String) (isCompact coerces : Bool)
    (lookup : Variables.Lookup) (text : Except Problem String) :
    (Command.pick file arguments coerces).plan isCompact lookup text =
      .ofExcept ((text.bind fun written => (Json.ofText written).mapError .invalidJson).bind
        fun document => (selectors arguments).map fun chosen =>
          .report (View.report ⟨arguments.isEmpty, isCompact⟩
            (evaluate chosen document coerces))) := by
  simp only [plan]
  cases text with
  | error problem => rfl
  | ok written =>
      simp only [bind, Except.bind]
      cases Json.ofText written with
      | error details => rfl
      | ok document => cases selectors arguments <;> rfl

section

variable {client : Http.Client} {network : Http.Network} {lookup : Variables.Lookup}
  {text : Except Problem String} {command : Command} {selectors : List Selector} {coerces : Bool}
  {document : Json}

theorem report_of_selects
    (hselects : command.Selects client network lookup text selectors coerces document)
    (isCompact : Bool) :
    ((command.plan isCompact lookup text).perform client network).2 =
      View.report ⟨command.showsWhole selectors, isCompact⟩
        (evaluate (if command.showsWhole selectors then [.ofPath ""] else selectors) document
          coerces) := by
  cases hselects with
  | fetch hselectors hheaders hreply =>
      obtain ⟨hchosen, hempty⟩ := selectors_of_mapM hselectors
      rw [plan_fetch_eq, hchosen, headers, hheaders, hempty]
      simp only [Except.bind, Except.map, Plan.ofExcept, Plan.perform, hreply, Job.finish,
        View.conclude, showsWhole]
      rfl
  | run htext hload hreply =>
      rw [plan_run_eq, htext, Except.bind, hload]
      simp only [Except.map, Plan.ofExcept, Plan.perform, Job.ofSpecification, hreply, Job.finish,
        View.conclude, showsWhole]
      rfl
  | pick htext hdocument hselectors =>
      obtain ⟨hchosen, hempty⟩ := selectors_of_mapM hselectors
      rw [plan_pick_eq, htext, Except.bind, hdocument, hchosen, hempty]
      rfl

/-- A command that succeeds without listing steps has picked from a document. -/
theorem exists_selects_of_status_eq_zero {isCompact : Bool}
    (hstatus : ((command.plan isCompact lookup text).perform client network).2.status = 0) :
    (∃ path, command = .tokenize path) ∨ ∃ selectors coerces document,
      command.Selects client network lookup text selectors coerces document := by
  cases command with
  | tokenize path => exact .inl ⟨path, rfl⟩
  | fetch url arguments headerArguments coerces timeout =>
      rw [plan_fetch_eq] at hstatus
      obtain ⟨plan, hplan, hdone⟩ := Plan.exists_of_status_ofExcept hstatus
      obtain ⟨chosen, hchosen, hrest⟩ := Problem.bind_eq_ok_iff.mp hplan
      obtain ⟨fields, hfields, rfl⟩ := Problem.map_eq_ok_iff.mp hrest
      obtain ⟨given, hgiven⟩ := exists_mapM_of_selectors hchosen
      obtain ⟨entries, hentries, rfl⟩ := Problem.map_eq_ok_iff.mp hfields
      obtain ⟨document, hreply⟩ := Plan.exists_reply_of_status_job hdone
      exact .inr ⟨given, coerces, document, .fetch hgiven hentries hreply⟩
  | run file =>
      rw [plan_run_eq] at hstatus
      obtain ⟨plan, hplan, hdone⟩ := Plan.exists_of_status_ofExcept hstatus
      obtain ⟨specification, hspecification, rfl⟩ := Problem.map_eq_ok_iff.mp hplan
      obtain ⟨written, htext, hload⟩ := Problem.bind_eq_ok_iff.mp hspecification
      obtain ⟨document, hreply⟩ := Plan.exists_reply_of_status_job hdone
      exact .inr ⟨_, _, document, .run htext hload hreply⟩
  | pick file arguments coerces =>
      rw [plan_pick_eq] at hstatus
      obtain ⟨plan, hplan, _⟩ := Plan.exists_of_status_ofExcept hstatus
      obtain ⟨document, hdocument, hrest⟩ := Problem.bind_eq_ok_iff.mp hplan
      obtain ⟨written, htext, hread⟩ := Problem.bind_eq_ok_iff.mp hdocument
      obtain ⟨chosen, hchosen, _⟩ := Problem.map_eq_ok_iff.mp hrest
      obtain ⟨given, hgiven⟩ := exists_mapM_of_selectors hchosen
      exact .inr ⟨given, coerces, document,
        .pick htext (Problem.mapError_eq_ok_iff.mp hread) hgiven⟩

end

/-- What a command that picks from a document shows.  With selectors, its report accounts for
every key of theirs.  Without selectors, a fetch or a pick shows a text of exactly the document,
be it null.  And only such commands succeed, apart from those that list steps. -/
theorem report_accounts_for_keys (client : Http.Client) (network : Http.Network)
    (lookup : Variables.Lookup) (text : Except Problem String) (isCompact : Bool)
    (command : Command) :
    let report := ((command.plan isCompact lookup text).perform client network).2
    (∀ selectors coerces document,
      command.Selects client network lookup text selectors coerces document →
        (selectors ≠ [] → report.AccountsFor isCompact selectors coerces document) ∧
        (selectors = [] → (∀ file, command ≠ .run file) →
          let shown := if coerces then document.coerce else document
          report = ⟨0, (if isCompact then shown.compact else shown.indented) ++ "\n", []⟩ ∧
            Json.IsTextOf report.output.toList shown)) ∧
    (report.status = 0 → (∃ path, command = .tokenize path) ∨
      ∃ selectors coerces document,
        command.Selects client network lookup text selectors coerces document) := by
  refine ⟨?_, exists_selects_of_status_eq_zero⟩
  intro selectors coerces document hselects
  constructor
  · intro hsome
    have hpart : command.showsWhole selectors = false := by
      cases command <;> simp [showsWhole, hsome]
    rw [report_of_selects hselects, hpart]
    exact View.report_accountsFor isCompact selectors coerces document
  · intro hnone hfile
    subst hnone
    have hwhole : command.showsWhole [] = true := by
      cases command with
      | fetch | pick => rfl
      | run file => exact absurd rfl (hfile file)
      | tokenize path => contradiction
    have hreport := report_of_selects hselects isCompact
    rw [hwhole, if_pos rfl, View.report_whole] at hreport
    refine ⟨hreport, ?_⟩
    rw [hreport]
    exact Json.isTextOf_form_newline _ isCompact

/-- What is picked last for a key is nothing, although it was something before, and the document
without selectors is null. -/
theorem report_accounts_for_keys_collision :
    let report (isCompact : Bool) (arguments : List String) (written : String) : Report :=
      (((Command.pick none arguments false).plan isCompact (fun _ => none) (.ok written)).perform
        .standard fun _ => .after 0 .refused).2
    let written := "\x7b\"a\":true\x7d"
    let notes := ["  → 'a' resolved to nothing", "  → 'x' resolved to nothing"]
    (∀ isCompact, (report isCompact ["a", "x=b", "a=b", "y=a"] written).AccountsFor isCompact
      [.ofPath "a", ⟨"x", "b", none, none⟩, ⟨"a", "b", none, none⟩, ⟨"y", "a", none, none⟩] false
      (.object [("a", .bool true)])) ∧
    report true ["a", "x=b", "a=b", "y=a"] written = ⟨0, "\x7b\"y\":true\x7d\n", notes⟩ ∧
    report false ["a", "x=b", "a=b", "y=a"] written =
      ⟨0, "\x7b\n  \"y\": true\n\x7d\n", notes⟩ ∧
    report false [] "null" = ⟨0, "null\n", []⟩ ∧ Json.IsTextOf "null\n".toList .null := by
  intro report written notes
  have hdocument : Json.ofText "\x7b\"a\":true\x7d" = .ok (.object [("a", .bool true)]) := by
    cbv
  have hselectors : ["a", "x=b", "a=b", "y=a"].mapM Selector.ofArgument =
      .ok [.ofPath "a", ⟨"x", "b", none, none⟩, ⟨"a", "b", none, none⟩,
        ⟨"y", "a", none, none⟩] := by cbv
  have hnull : Json.ofText "null" = .ok .null := by cbv
  have hpicked (isCompact : Bool) :=
    report_accounts_for_keys .standard (fun _ => .after 0 .refused) (fun _ => none) (.ok written)
      isCompact (.pick none ["a", "x=b", "a=b", "y=a"] false)
  have hwhole := report_accounts_for_keys .standard (fun _ => .after 0 .refused) (fun _ => none)
    (.ok "null") false (.pick none [] false)
  obtain ⟨hreport, htext⟩ := (hwhole.1 _ _ _ (.pick rfl hnull rfl)).2 rfl (by simp)
  rw [hreport] at htext
  refine ⟨fun isCompact => ?_, ?_, ?_, hreport, htext⟩
  · exact ((hpicked isCompact).1 _ _ _ (.pick rfl hdocument hselectors)).1 (List.cons_ne_nil _ _)
  · decide +kernel
  · decide +kernel

end Command

end JsonExtract
