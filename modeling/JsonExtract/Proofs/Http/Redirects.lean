import JsonExtract.Proofs.Http.Arrival

/-!
# Chains of redirects

A visit is a call that is due, with the time that is left for it.  The answer to it either ends
the exchange or sends the client on to the next visit, for which there is less time.  A trail is a
chain of such visits, of any length and without regard to how often a client lets itself be sent
elsewhere.  An exchange follows the one trail there is as far as its budget goes, and what it ends
with is settled by what comes in time from the server of the last visit.
-/

namespace JsonExtract.Http

/-! ## Visits -/

structure Visit where
  url : Url
  /-- The time that is left. -/
  left : Nat
  /-- The fields that the call shares with all later ones. -/
  shared : List Field
  fields : List Field

namespace Visit

def call (visit : Visit) : Call :=
  Call.ofUrl visit.url visit.fields

def following (visit : Visit) (response : Response) (next : Url) (left : Nat) : Visit :=
  let shared := sharedAfter response visit.shared
  ⟨next, left, shared, followingFields visit.url next shared⟩

/-- Whether the server takes a call and the head of its response comes, both in time. -/
def Hears (network : Network) (visit : Visit) (response : Response) (left : Nat) : Prop :=
  ∃ connect head,
    network visit.call = .after connect (.taken (.after head (.response response))) ∧
      connect + head < visit.left ∧ left = visit.left - (connect + head)

def Sends (network : Network) (visit next : Visit) : Prop :=
  ∃ response url left, Hears network visit response left ∧
    response.location? visit.url = some url ∧ next = visit.following response url left

/-- Whether the time is up while a client waits for a server to take its call, for the head of
the answer, or for the body of a response that is the document. -/
inductive RunsOut (network : Network) (visit : Visit) : Prop where
  | connecting (hlate : (network visit.call).IsLate visit.left)
  | waiting {connect : Nat} {answer : Arrival Answer}
      (hreply : network visit.call = .after connect (.taken answer))
      (htime : connect < visit.left) (hlate : answer.IsLate (visit.left - connect))
  | reading {response : Response} {left : Nat} (hhears : Hears network visit response left)
      (hstays : response.location? visit.url = none)
      (hstatus : Status.isSuccess response.status = true) (hlate : response.body.IsLate left)

def follow (network : Network) (first : Url) (budget : Nat) (visit : Visit) : Exchange :=
  Http.follow network first budget visit.left visit.shared visit.url visit.fields

end Visit

open Visit (Hears Sends RunsOut)

/-- A chain of visits to addresses of the web, with the calls that lead to its last visit. -/
inductive Trail (network : Network) : Visit → List Call → Visit → Prop where
  | here (visit : Visit) : Trail network visit [] visit
  | sent {visit next last : Visit} {calls : List Call} (hsends : Sends network visit next)
      (hweb : next.url.isWeb = true) (hrest : Trail network next calls last) :
      Trail network visit (visit.call :: calls) last

/-- The calls and the ending that the last visit of an exchange comes to, when the exchange has
started at the address `first` and the client lets itself be sent elsewhere `budget` more
times. -/
inductive Concludes (network : Network) (first : Url) (budget : Nat) (last : Visit) :
    List Call → Ending → Prop where
  | unmet (hlate : (network last.call).IsLate last.left) :
      Concludes network first budget last [] .overdue
  | refused {connect : Nat} (hreply : network last.call = .after connect .refused)
      (htime : connect < last.left) :
      Concludes network first budget last [] (.broken (failure "error sending request" first))
  | unanswered {connect : Nat} {answer : Arrival Answer}
      (hreply : network last.call = .after connect (.taken answer)) (htime : connect < last.left)
      (hlate : answer.IsLate (last.left - connect)) :
      Concludes network first budget last [last.call] .overdue
  | hangUp {connect head : Nat}
      (hreply : network last.call = .after connect (.taken (.after head .hangUp)))
      (htime : connect + head < last.left) :
      Concludes network first budget last [last.call]
        (.broken (failure "error sending request" first))
  | answered {response : Response} {left : Nat} (hhears : Hears network last response left)
      (hstays : response.location? last.url = none) :
      Concludes network first budget last [last.call] (.answered response left)
  | spent {next : Visit} (hsends : Sends network last next) (hbudget : budget = 0) :
      Concludes network first budget last [last.call]
        (.broken (failure "error following redirect" last.url))
  | foreign {next : Visit} (hsends : Sends network last next) (hbudget : budget ≠ 0)
      (hforeign : next.url.isWeb = false) :
      Concludes network first budget last [last.call]
        (.broken (failure "builder error" next.url))

namespace Visit

variable {network : Network} {first : Url} {budget : Nat} {visit next : Visit}

/-! ## One visit -/

theorem follow_eq (network : Network) (first : Url) (budget : Nat) (visit : Visit) :
    visit.follow network first budget =
      match (network visit.call).before? visit.left with
      | none => .without .overdue
      | some (.refused, _) => .without (.broken (failure "error sending request" first))
      | some (.taken answer, left) =>
        match answer.before? left with
        | none => .after visit.call (.without .overdue)
        | some (.hangUp, _) =>
          .after visit.call (.without (.broken (failure "error sending request" first)))
        | some (.response response, left) =>
          match response.location? visit.url, budget with
          | none, _ => .after visit.call (.without (.answered response left))
          | some _, 0 =>
            .after visit.call (.without (.broken (failure "error following redirect" visit.url)))
          | some next, budget + 1 =>
            if next.isWeb then
              .after visit.call
                ((visit.following response next left).follow network first budget)
            else .after visit.call (.without (.broken (failure "builder error" next))) :=
  Http.follow.eq_def network first budget visit.left visit.shared visit.url visit.fields

/-- What is heard in time has come after two delays, each of them in time. -/
theorem Hears.before? {response : Response} {left : Nat}
    (hhears : Hears network visit response left) :
    ∃ answer rest, (network visit.call).before? visit.left = some (.taken answer, rest) ∧
      answer.before? rest = some (.response response, left) := by
  obtain ⟨connect, head, hreply, htime, rfl⟩ := hhears
  have hconnect : connect < visit.left := by omega
  have hhead : head < visit.left - connect := by omega
  refine ⟨_, _, by rw [hreply, Arrival.before?_after hconnect], ?_⟩
  rw [Arrival.before?_after hhead, Nat.sub_sub]

theorem hears_of_before? {response : Response} {answer : Arrival Answer} {rest left : Nat}
    (htaken : (network visit.call).before? visit.left = some (.taken answer, rest))
    (hhead : answer.before? rest = some (.response response, left)) :
    Hears network visit response left := by
  obtain ⟨connect, hreply, htime, rfl⟩ := Arrival.before?_eq_some_iff.mp htaken
  obtain ⟨head, rfl, hearly, rfl⟩ := Arrival.before?_eq_some_iff.mp hhead
  exact ⟨connect, head, hreply, by omega, by omega⟩

theorem follow_of_sends (hsends : Sends network visit next) (hweb : next.url.isWeb = true) :
    visit.follow network first (budget + 1) =
      .after visit.call (next.follow network first budget) := by
  obtain ⟨response, url, left, hhears, hlocation, rfl⟩ := hsends
  obtain ⟨answer, rest, htaken, hhead⟩ := hhears.before?
  have hweb' : url.isWeb = true := hweb
  rw [follow_eq]
  simp only [htaken, hhead, hlocation, hweb', if_true]

theorem follow_of_concludes {calls : List Call} {ending : Ending}
    (hend : Concludes network first budget visit calls ending) :
    visit.follow network first budget = ⟨calls, ending⟩ := by
  rw [follow_eq]
  cases hend with
  | unmet hlate =>
      simp only [Arrival.before?_eq_none_iff.mpr hlate, Exchange.without]
  | refused hreply htime =>
      simp only [hreply, Arrival.before?_after htime, Exchange.without]
  | unanswered hreply htime hlate =>
      simp only [hreply, Arrival.before?_after htime, Arrival.before?_eq_none_iff.mpr hlate,
        Exchange.without, Exchange.after]
  | @hangUp connect head hreply htime =>
      have hconnect : connect < visit.left := by omega
      have hhead : head < visit.left - connect := by omega
      simp only [hreply, Arrival.before?_after hconnect, Arrival.before?_after hhead,
        Exchange.without, Exchange.after]
  | answered hhears hstays =>
      obtain ⟨answer, rest, htaken, hhead⟩ := hhears.before?
      simp only [htaken, hhead, hstays, Exchange.without, Exchange.after]
  | spent hsends hbudget =>
      obtain ⟨response, url, left, hhears, hlocation, rfl⟩ := hsends
      obtain ⟨answer, rest, htaken, hhead⟩ := hhears.before?
      subst hbudget
      simp only [htaken, hhead, hlocation, Exchange.without, Exchange.after]
  | foreign hsends hbudget hforeign =>
      obtain ⟨response, url, left, hhears, hlocation, rfl⟩ := hsends
      obtain ⟨answer, rest, htaken, hhead⟩ := hhears.before?
      obtain ⟨more, rfl⟩ := Nat.exists_eq_succ_of_ne_zero hbudget
      have hforeign' : url.isWeb = false := hforeign
      simp only [htaken, hhead, hlocation, hforeign', Exchange.without, Exchange.after]
      rfl

/-- Whatever comes of a call, or nothing in time, concludes the exchange or is the head of a
response. -/
theorem concludes_or_hears (network : Network) (first : Url) (budget : Nat) (visit : Visit) :
    (∃ calls ending, Concludes network first budget visit calls ending) ∨
      ∃ response left, Hears network visit response left := by
  cases htaken : (network visit.call).before? visit.left with
  | none => exact .inl ⟨_, _, .unmet (Arrival.before?_eq_none_iff.mp htaken)⟩
  | some came =>
      obtain ⟨reply, rest⟩ := came
      obtain ⟨connect, hreply, htime, hrest⟩ := Arrival.before?_eq_some_iff.mp htaken
      cases reply with
      | refused => exact .inl ⟨_, _, .refused hreply htime⟩
      | taken answer =>
          cases hhead : answer.before? rest with
          | none =>
              have hlate := hrest ▸ Arrival.before?_eq_none_iff.mp hhead
              exact .inl ⟨_, _, .unanswered hreply htime hlate⟩
          | some heard =>
              obtain ⟨what, left⟩ := heard
              cases what with
              | response response =>
                  exact .inr ⟨response, left, hears_of_before? htaken hhead⟩
              | hangUp =>
                  obtain ⟨head, rfl, hearly, -⟩ := Arrival.before?_eq_some_iff.mp hhead
                  exact .inl ⟨_, _, .hangUp hreply (by omega)⟩

/-- An exchange ends with a visit, or the visit sends the client on and there is budget left. -/
theorem concludes_or_sends (network : Network) (first : Url) (budget : Nat) (visit : Visit) :
    (∃ calls ending, Concludes network first budget visit calls ending) ∨
      ∃ next, Sends network visit next ∧ next.url.isWeb = true ∧ budget ≠ 0 := by
  obtain hend | ⟨response, left, hhears⟩ := concludes_or_hears network first budget visit
  · exact .inl hend
  · cases hlocation : response.location? visit.url with
    | none => exact .inl ⟨_, _, .answered hhears hlocation⟩
    | some url =>
        have hsends : Sends network visit (visit.following response url left) :=
          ⟨response, url, left, hhears, hlocation, rfl⟩
        by_cases hbudget : budget = 0
        · exact .inl ⟨_, _, .spent hsends hbudget⟩
        · cases hweb : url.isWeb with
          | false => exact .inl ⟨_, _, .foreign hsends hbudget hweb⟩
          | true => exact .inr ⟨_, hsends, hweb, hbudget⟩

end Visit

/-! ## Trails -/

namespace Trail

variable {network : Network} {visit last : Visit} {trail : List Call}

theorem append {other : Visit} {more : List Call} (hfirst : Trail network visit trail other)
    (hsecond : Trail network other more last) : Trail network visit (trail ++ more) last := by
  induction hfirst with
  | here => exact hsecond
  | sent hsends hweb _ ih => exact .sent hsends hweb (ih hsecond)

/-- Inside a trail, every visit sends the client on. -/
theorem exists_sends {n : Nat} (htrail : Trail network visit trail last) (hn : n < trail.length) :
    ∃ other next, Trail network visit (trail.take n) other ∧ Sends network other next ∧
      trail.take (n + 1) = trail.take n ++ [other.call] := by
  induction htrail generalizing n with
  | here => simp at hn
  | @sent visit next last calls hsends hweb _ ih =>
      cases n with
      | zero => exact ⟨visit, next, .here visit, hsends, rfl⟩
      | succ n =>
          obtain ⟨other, following, hlead, hmore, htake⟩ := ih (Nat.lt_of_succ_lt_succ hn)
          exact ⟨other, following, .sent hsends hweb hlead, hmore,
            congrArg (visit.call :: ·) htake⟩

theorem follow_eq {budget : Nat} (htrail : Trail network visit trail last) (first : Url) :
    visit.follow network first (trail.length + budget) =
      ⟨trail ++ (last.follow network first budget).calls,
        (last.follow network first budget).ending⟩ := by
  induction htrail with
  | here => rw [List.length_nil, Nat.zero_add, List.nil_append]
  | sent hsends hweb _ ih =>
      rw [List.length_cons, Nat.add_right_comm, Visit.follow_of_sends hsends hweb, ih]
      rfl

end Trail

/-- What an exchange comes to: a trail that the budget allows, and behind it a visit that
concludes the exchange. -/
theorem Visit.follow_eq_iff {network : Network} {first : Url} {budget : Nat} {visit : Visit}
    {exchange : Exchange} :
    visit.follow network first budget = exchange ↔
      ∃ trail last calls, Trail network visit trail last ∧ trail.length ≤ budget ∧
        Concludes network first (budget - trail.length) last calls exchange.ending ∧
        exchange.calls = trail ++ calls := by
  constructor
  · rintro rfl
    -- The budget that is left when an exchange ends is what the trail has not used up of it.
    induction budget generalizing visit with
    | zero =>
        rcases concludes_or_sends network first 0 visit with ⟨calls, ending, hend⟩ | ⟨_, _, _, hne⟩
        · rw [follow_of_concludes hend]
          exact ⟨[], visit, calls, .here visit, Nat.le_refl _, hend, rfl⟩
        · contradiction
    | succ budget ih =>
        rcases concludes_or_sends network first (budget + 1) visit with
          ⟨calls, ending, hend⟩ | ⟨next, hsends, hweb, _⟩
        · rw [follow_of_concludes hend]
          exact ⟨[], visit, calls, .here visit, Nat.zero_le _, hend, rfl⟩
        · obtain ⟨trail, last, calls, htrail, hlength, hend, hcalls⟩ := @ih next
          rw [follow_of_sends hsends hweb]
          refine ⟨visit.call :: trail, last, calls, .sent hsends hweb htrail,
            Nat.succ_le_succ hlength, ?_, congrArg (visit.call :: ·) hcalls⟩
          rwa [List.length_cons, Nat.add_sub_add_right]
  · rintro ⟨trail, last, calls, htrail, hlength, hend, hcalls⟩
    have hbudget : budget = trail.length + (budget - trail.length) := by omega
    rw [hbudget, htrail.follow_eq first, follow_of_concludes hend, ← hcalls]

theorem Concludes.length_le {network : Network} {first : Url} {budget : Nat} {last : Visit}
    {calls : List Call} {ending : Ending}
    (hend : Concludes network first budget last calls ending) : calls.length ≤ 1 := by
  cases hend <;> simp

/-! ## Circles -/

/-- Whether every address of a circle only sends a client on to another one of them, whatever the
fields of the call and whatever the time that this takes. -/
def Network.Circles (network : Network) (circle : List Url) : Prop :=
  ∀ url ∈ circle, ∀ fields, ∃ connect head response next,
    network (Call.ofUrl url fields) =
        .after connect (.taken (.after head (.response response))) ∧
      response.location? url = some next ∧ next.isWeb = true ∧ next ∈ circle

section

variable {network : Network} {circle : List Url} {visit : Visit}

theorem Visit.exists_sends_of_circles (hcircles : network.Circles circle)
    (hin : visit.url ∈ circle) (hgoes : ¬ RunsOut network visit) :
    ∃ next, Sends network visit next ∧ next.url.isWeb = true ∧ next.url ∈ circle := by
  obtain ⟨connect, head, response, url, hreply, hlocation, hweb, hnext⟩ :=
    hcircles visit.url hin visit.fields
  have hreply' : network visit.call =
      .after connect (.taken (.after head (.response response))) := hreply
  have hconnect : connect < visit.left := by
    apply Nat.lt_of_not_le
    intro hlate
    have hunmet : (network visit.call).IsLate visit.left := by
      rw [hreply']
      exact Arrival.isLate_after_iff.mpr hlate
    exact hgoes (.connecting hunmet)
  have hhead : head < visit.left - connect := by
    apply Nat.lt_of_not_le
    intro hlate
    exact hgoes (.waiting hreply' hconnect (Arrival.isLate_after_iff.mpr hlate))
  have hhears : Hears network visit response (visit.left - (connect + head)) :=
    ⟨connect, head, hreply', by omega, rfl⟩
  exact ⟨_, ⟨response, url, _, hhears, hlocation, rfl⟩, hweb, hnext⟩

/-- A trail inside a circle is as long as one likes, unless the time runs out on the way. -/
theorem Trail.exists_length_eq_of_circles (hcircles : network.Circles circle)
    (hin : visit.url ∈ circle) {n : Nat}
    (hgoes : ∀ calls last, Trail network visit calls last → calls.length < n →
      ¬ RunsOut network last) :
    ∃ calls last, Trail network visit calls last ∧ calls.length = n := by
  induction n generalizing visit with
  | zero => exact ⟨[], visit, .here visit, rfl⟩
  | succ n ih =>
      obtain ⟨next, hsends, hweb, hnext⟩ :=
        Visit.exists_sends_of_circles hcircles hin (hgoes _ _ (.here visit) (Nat.succ_pos n))
      obtain ⟨calls, last, htrail, hlength⟩ := ih hnext fun calls last htrail hlt =>
        hgoes _ _ (.sent hsends hweb htrail) (Nat.succ_lt_succ hlt)
      exact ⟨visit.call :: calls, last, .sent hsends hweb htrail, congrArg Nat.succ hlength⟩

end

end JsonExtract.Http
