import JsonExtract.Http.Site
import JsonExtract.Json.Printer
import JsonExtract.Proofs.Http.Redirects
import JsonExtract.Proofs.Problem

/-!
# What requests come to

A request comes to a document or to a problem.  A problem with the address or the fields comes up
before the first call.  Otherwise the client follows a trail, and what comes in time from the last
server settles the kind of the outcome: a response by its status and then by its body, and what is
late by the time that was allowed.  Everything else is a failure of the transport.
-/

namespace JsonExtract

/-! ## Addresses of the web -/

/-- Whether a text is an absolute address of the web. -/
def Url.IsWebText (text : String) : Prop :=
  ∃ url, Url.ofText text = .ok url ∧ url.isWeb = true

namespace Url

theorem ofWebText_eq_ok_iff {text : String} {url : Url} :
    ofWebText text = .ok url ↔ ofText text = .ok url ∧ url.isWeb = true := by
  unfold ofWebText
  cases ofText text with
  | error fault => simp
  | ok other =>
      by_cases hweb : other.isWeb = true
      · simp only [hweb, if_true, Except.ok.injEq]
        constructor
        · rintro rfl
          exact ⟨rfl, hweb⟩
        · exact fun h => h.1
      · simp only [hweb, Bool.false_eq_true, if_false, Except.ok.injEq, reduceCtorEq, false_iff,
          not_and]
        rintro rfl
        exact hweb

theorem exists_ofWebText_eq_ok_iff {text : String} :
    (∃ url, ofWebText text = .ok url) ↔ IsWebText text := by
  simp only [ofWebText_eq_ok_iff, IsWebText]

/-- The problem with any other text tells the text itself. -/
theorem exists_reason_of_ofWebText_eq_error {text : String} {problem : Problem}
    (h : ofWebText text = .error problem) : ∃ reason, problem = .invalidUrl text reason := by
  unfold ofWebText at h
  split at h
  · exact ⟨_, (Except.error.inj h).symm⟩
  · split at h
    · cases h
    · exact ⟨_, (Except.error.inj h).symm⟩

end Url

/-! ## Responses -/

namespace Http

namespace Response

/-- Whether the body of a response comes to its end in the time that is left, and is this text in
the encoding of its type. -/
def Brings (response : Response) (left : Nat) (text : String) : Prop :=
  ∃ delay body, response.body = .after delay (some body) ∧ delay < left ∧
    text = String.ofList ((ContentType.encodingOf response.fields).decode body)

/-- Whether a body breaks off before the time is up. -/
def BreaksOff (response : Response) (left : Nat) : Prop :=
  ∃ delay, response.body = .after delay none ∧ delay < left

variable {response : Response} {allowed left : Nat}

theorem body_cases (response : Response) (left : Nat) :
    response.body.IsLate left ∨ response.BreaksOff left ∨
      ∃ text, response.Brings left text := by
  cases hbody : response.body.before? left with
  | none => exact .inl (Arrival.before?_eq_none_iff.mp hbody)
  | some came =>
      obtain ⟨body, rest⟩ := came
      obtain ⟨delay, harrival, htime, -⟩ := Arrival.before?_eq_some_iff.mp hbody
      cases body with
      | none => exact .inr (.inl ⟨delay, harrival, htime⟩)
      | some body => exact .inr (.inr ⟨_, delay, body, harrival, htime, rfl⟩)

theorem document_of_isSuccess_eq_false (hstatus : Status.isSuccess response.status = false) :
    response.document allowed left =
      .error (.httpStatus response.status (Status.phrase response.status)) := by
  simp only [document, hstatus, Bool.not_false, if_true]

theorem document_of_isLate (hstatus : Status.isSuccess response.status = true)
    (hlate : response.body.IsLate left) :
    response.document allowed left = .error (.timeout allowed) := by
  simp only [document, hstatus, Arrival.before?_eq_none_iff.mpr hlate, Bool.not_true,
    Bool.false_eq_true, if_false]

theorem document_of_breaksOff (hstatus : Status.isSuccess response.status = true)
    (hbreaks : response.BreaksOff left) :
    response.document allowed left =
      .error (.transport "Failed to read response: error decoding response body") := by
  obtain ⟨delay, hbody, htime⟩ := hbreaks
  simp only [document, hstatus, hbody, Arrival.before?_after htime, Bool.not_true,
    Bool.false_eq_true, if_false]

theorem document_of_brings (hstatus : Status.isSuccess response.status = true) {text : String}
    (hbrings : response.Brings left text) :
    response.document allowed left = (Json.ofText text).mapError .invalidJson := by
  obtain ⟨delay, body, hbody, htime, rfl⟩ := hbrings
  simp only [document, hstatus, hbody, Arrival.before?_after htime, Bool.not_true,
    Bool.false_eq_true, if_false]

theorem document_eq_iff {result : Except Problem Json} :
    response.document allowed left = result ↔
      (Status.isSuccess response.status = false ∧
        .error (.httpStatus response.status (Status.phrase response.status)) = result) ∨
      (Status.isSuccess response.status = true ∧ response.body.IsLate left ∧
        .error (.timeout allowed) = result) ∨
      (Status.isSuccess response.status = true ∧ response.BreaksOff left ∧
        .error (.transport "Failed to read response: error decoding response body") = result) ∨
      ∃ text, Status.isSuccess response.status = true ∧ response.Brings left text ∧
        (Json.ofText text).mapError .invalidJson = result := by
  constructor
  · rintro rfl
    cases hstatus : Status.isSuccess response.status with
    | false => exact .inl ⟨rfl, (document_of_isSuccess_eq_false hstatus).symm⟩
    | true =>
        obtain hlate | hbreaks | ⟨text, hbrings⟩ := response.body_cases left
        · exact .inr (.inl ⟨rfl, hlate, (document_of_isLate hstatus hlate).symm⟩)
        · exact .inr (.inr (.inl ⟨rfl, hbreaks, (document_of_breaksOff hstatus hbreaks).symm⟩))
        · exact .inr (.inr (.inr ⟨text, rfl, hbrings, (document_of_brings hstatus hbrings).symm⟩))
  · rintro (⟨hstatus, rfl⟩ | ⟨hstatus, hlate, rfl⟩ | ⟨hstatus, hbreaks, rfl⟩ |
      ⟨text, hstatus, hbrings, rfl⟩)
    · exact document_of_isSuccess_eq_false hstatus
    · exact document_of_isLate hstatus hlate
    · exact document_of_breaksOff hstatus hbreaks
    · exact document_of_brings hstatus hbrings

theorem document_eq_ok_iff {document : Json} :
    response.document allowed left = .ok document ↔ ∃ text,
      Status.isSuccess response.status = true ∧ response.Brings left text ∧
        Json.ofText text = .ok document := by
  simp [document_eq_iff, Problem.mapError_eq_ok_iff]

theorem document_eq_httpStatus_iff {status : Nat} {reason : String} :
    response.document allowed left = .error (.httpStatus status reason) ↔
      Status.isSuccess response.status = false ∧ response.status = status ∧
        Status.phrase response.status = reason := by
  simp [document_eq_iff, Problem.mapError_eq_error_iff]

theorem document_eq_invalidJson_iff {details : String} :
    response.document allowed left = .error (.invalidJson details) ↔ ∃ text,
      Status.isSuccess response.status = true ∧ response.Brings left text ∧
        Json.ofText text = .error details := by
  simp [document_eq_iff, Problem.mapError_eq_error_iff]

theorem document_eq_timeout_iff {milliseconds : Nat} :
    response.document allowed left = .error (.timeout milliseconds) ↔
      Status.isSuccess response.status = true ∧ response.body.IsLate left ∧
        allowed = milliseconds := by
  simp [document_eq_iff, Problem.mapError_eq_error_iff]

end Response

/-! ## The first visit -/

open Visit (Hears RunsOut)

namespace Client

/-- The address that the calls of a request are made out to.  Credentials that can be read are
no part of it. -/
def addressee (url : Url) : Url :=
  if (url.authority.bind Credentials.ofAuthority?).isSome then url.withoutCredentials else url

/-- The visit to an address with which a request starts, with all the time that is allowed. -/
def firstVisit (client : Client) (request : Request) (url : Url) : Visit :=
  let fields := client.fieldsOf (url.authority.bind Credentials.ofAuthority?) request
  ⟨(addressee url).asRequested, request.timeout, fields, fields⟩

/-- Whether a request starts with a visit: its address is one of the web that calls can be made
out to, and its fields can be sent. -/
inductive Starts (client : Client) (request : Request) : Visit → Prop where
  | visit {url : Url} (hurl : Url.ofWebText request.url = .ok url)
      (hheaders : ∀ entry ∈ request.headers.entries, Field.isSendable entry.1 entry.2 = true)
      (hrequestable : (addressee url).isRequestable = true) :
      Starts client request (client.firstVisit request url)

/-- Whether the head of a response reaches the client as the last one, with some time left.  The
client is sent to where it comes from, no more often than it lets itself, and the response sends
it nowhere else. -/
def Receives (client : Client) (network : Network) (request : Request) (response : Response)
    (left : Nat) : Prop :=
  ∃ first trail last, client.Starts request first ∧
    Trail (client.dialling network) first trail last ∧ trail.length ≤ client.redirects ∧
    Hears (client.dialling network) last response left ∧ response.location? last.url = none

/-- Whether the time is up somewhere on the way to the end of the last body. -/
def IsCutOff (client : Client) (network : Network) (request : Request) : Prop :=
  ∃ first trail last, client.Starts request first ∧
    Trail (client.dialling network) first trail last ∧ trail.length ≤ client.redirects ∧
    RunsOut (client.dialling network) last

/-- Everything that a request can come to, with the calls that are made. -/
inductive Comes (client : Client) (network : Network) (request : Request) :
    List Call × Except Problem Json → Prop where
  | foreign {reason : String} (hurl : ¬ Url.IsWebText request.url) :
      Comes client network request ([], .error (.invalidUrl request.url reason))
  | unsendable {text : String} (hurl : Url.IsWebText request.url)
      (hstarts : ∀ visit, ¬ client.Starts request visit) :
      Comes client network request ([], .error (.transport text))
  | follows {first last : Visit} {start : Url} {trail calls : List Call} {ending : Ending}
      (hstarts : client.Starts request first)
      (htrail : Trail (client.dialling network) first trail last)
      (hlength : trail.length ≤ client.redirects)
      (hend : Concludes (client.dialling network) start (client.redirects - trail.length) last
        calls ending) :
      Comes client network request (trail ++ calls, ending.document request.timeout)

variable {client : Client} {network : Network} {request : Request}

/-! ## Exchanges -/

theorem fetch_of_starts {first : Visit} (hstarts : client.Starts request first)
    (network : Network) :
    ∃ start, client.fetch network request =
      ((first.follow (client.dialling network) start client.redirects).calls,
        (first.follow (client.dialling network) start client.redirects).ending.document
          request.timeout) := by
  obtain @⟨url, hurl, hheaders, hrequestable⟩ := hstarts
  have hsendable : (request.headers.entries.all fun entry =>
      Field.isSendable entry.1 entry.2) = true := List.all_eq_true.mpr hheaders
  rw [addressee] at hrequestable
  refine ⟨addressee url, ?_⟩
  simp only [fetch, hurl, exchange, hsendable, hrequestable, Bool.not_true, Bool.false_eq_true,
    if_false]
  rfl

/-- A client that follows a trail ends up with what the last visit concludes. -/
theorem fetch_of_trail {first last : Visit} {trail : List Call}
    (hstarts : client.Starts request first)
    (htrail : Trail (client.dialling network) first trail last)
    (hlength : trail.length ≤ client.redirects) :
    ∃ start, ∀ {calls ending}, Concludes (client.dialling network) start
      (client.redirects - trail.length) last calls ending →
        client.fetch network request = (trail ++ calls, ending.document request.timeout) := by
  obtain ⟨start, hfetch⟩ := fetch_of_starts hstarts network
  refine ⟨start, fun {calls ending} hend => ?_⟩
  have hfollow : first.follow (client.dialling network) start client.redirects =
      ⟨trail ++ calls, ending⟩ :=
    Visit.follow_eq_iff.mpr ⟨trail, last, calls, htrail, hlength, hend, rfl⟩
  rw [hfetch, hfollow]

theorem fetch_of_not_isWebText (hurl : ¬ Url.IsWebText request.url) (client : Client)
    (network : Network) :
    ∃ reason, client.fetch network request = ([], .error (.invalidUrl request.url reason)) := by
  unfold fetch
  cases hweb : Url.ofWebText request.url with
  | ok url => exact absurd (Url.exists_ofWebText_eq_ok_iff.mp ⟨url, hweb⟩) hurl
  | error problem =>
      obtain ⟨reason, rfl⟩ := Url.exists_reason_of_ofWebText_eq_error hweb
      exact ⟨reason, rfl⟩

/-- A request that does not start fails at once, although its address is one of the web. -/
theorem fetch_of_not_starts (hurl : Url.IsWebText request.url)
    (hstarts : ∀ visit, ¬ client.Starts request visit) (network : Network) :
    ∃ text, client.fetch network request = ([], .error (.transport text)) := by
  obtain ⟨url, hweb⟩ := Url.exists_ofWebText_eq_ok_iff.mpr hurl
  simp only [fetch, hweb]
  by_cases hheaders : (request.headers.entries.all fun entry =>
      Field.isSendable entry.1 entry.2) = true
  · by_cases hrequestable : (addressee url).isRequestable = true
    · exact absurd (.visit hweb (List.all_eq_true.mp hheaders) hrequestable) (hstarts _)
    · rw [addressee] at hrequestable
      simp only [exchange, hheaders, hrequestable, Bool.not_true, Bool.not_false,
        Bool.false_eq_true, if_false, if_true]
      exact ⟨_, rfl⟩
  · simp only [exchange, hheaders, Bool.not_false, if_true]
    exact ⟨_, rfl⟩

theorem comes_fetch (client : Client) (network : Network) (request : Request) :
    client.Comes network request (client.fetch network request) := by
  by_cases hurl : Url.IsWebText request.url
  · by_cases hstarts : ∃ visit, client.Starts request visit
    · obtain ⟨first, hfirst⟩ := hstarts
      obtain ⟨start, hfetch⟩ := fetch_of_starts hfirst network
      have hexchange : first.follow (client.dialling network) start client.redirects = _ := rfl
      obtain ⟨trail, last, calls, htrail, hlength, hend, hcalls⟩ :=
        Visit.follow_eq_iff.mp hexchange
      rw [hfetch, hcalls]
      exact .follows hfirst htrail hlength hend
    · obtain ⟨text, hfetch⟩ := fetch_of_not_starts hurl (not_exists.mp hstarts) network
      rw [hfetch]
      exact .unsendable hurl (not_exists.mp hstarts)
  · obtain ⟨reason, hfetch⟩ := fetch_of_not_isWebText hurl client network
    rw [hfetch]
    exact .foreign hurl

/-- A client calls once more at most than it lets itself be sent elsewhere. -/
theorem length_calls_le (client : Client) (network : Network) (request : Request) :
    (client.fetch network request).1.length ≤ client.redirects + 1 := by
  have hcomes := client.comes_fetch network request
  generalize client.fetch network request = outcome at hcomes ⊢
  cases hcomes with
  | foreign | unsendable => exact Nat.zero_le _
  | follows _ _ hlength hend =>
      rw [List.length_append]
      exact Nat.add_le_add hlength hend.length_le

/-- A client gives up when it is sent elsewhere once too often. -/
theorem fetch_of_long_trail {first last : Visit} {trail : List Call}
    (hstarts : client.Starts request first)
    (htrail : Trail (client.dialling network) first trail last)
    (hlong : client.redirects < trail.length) :
    ∃ place, client.fetch network request = (trail.take (client.redirects + 1),
      .error (.transport (failure "error following redirect" place))) := by
  obtain ⟨other, next, hlead, hsends, htake⟩ := htrail.exists_sends hlong
  have hlength : (trail.take client.redirects).length = client.redirects :=
    List.length_take_of_le (Nat.le_of_lt hlong)
  have hspent : client.redirects - (trail.take client.redirects).length = 0 := by
    rw [hlength, Nat.sub_self]
  obtain ⟨start, hfetch⟩ := fetch_of_trail hstarts hlead (Nat.le_of_eq hlength)
  refine ⟨other.url, ?_⟩
  rw [hfetch (.spent hsends hspent), htake]
  rfl

/-- A client gives up on a server that does not take a call in time, however much time there is
for all else. -/
theorem fetch_of_isLate {first last : Visit} {trail : List Call} {patience : Nat}
    (hpatience : client.patience = some patience) (hstarts : client.Starts request first)
    (htrail : Trail (client.dialling network) first trail last)
    (hlength : trail.length ≤ client.redirects) (hlate : (network last.call).IsLate patience)
    (htime : patience < last.left) :
    ∃ place, client.fetch network request =
      (trail, .error (.transport (failure "error sending request" place))) := by
  obtain ⟨start, hfetch⟩ := fetch_of_trail hstarts htrail hlength
  have hrefused := dialling_of_isLate hpatience hlate
  refine ⟨start, ?_⟩
  rw [hfetch (.refused hrefused htime), List.append_nil]
  rfl

/-- A client that goes round in circles gives up like any other that is sent too far, unless the
time is up before. -/
theorem fetch_of_circles {first entry : Visit} {lead : List Call} {circle : List Url}
    (hstarts : client.Starts request first)
    (hlead : Trail (client.dialling network) first lead entry) (hin : entry.url ∈ circle)
    (hcircles : (client.dialling network).Circles circle)
    (hgoes : ¬ client.IsCutOff network request) :
    (client.fetch network request).1.length = client.redirects + 1 ∧
      ∃ place, (client.fetch network request).2 =
        .error (.transport (failure "error following redirect" place)) := by
  obtain ⟨round, last, hround, hlength⟩ :=
    Trail.exists_length_eq_of_circles (n := client.redirects + 1 - lead.length) hcircles hin
      fun calls last htrail hlt hout =>
        hgoes ⟨first, lead ++ calls, last, hstarts, hlead.append htrail,
          by rw [List.length_append]; omega, hout⟩
  have hlong : client.redirects < (lead ++ round).length := by
    rw [List.length_append]
    omega
  obtain ⟨place, hfetch⟩ := fetch_of_long_trail hstarts (hlead.append hround) hlong
  rw [hfetch]
  exact ⟨List.length_take_of_le hlong, place, rfl⟩

/-! ## Outcomes -/

theorem fetch_of_receives {response : Response} {left : Nat}
    (hreceives : client.Receives network request response left) :
    (client.fetch network request).2 = response.document request.timeout left := by
  obtain ⟨first, trail, last, hstarts, htrail, hlength, hhears, hstays⟩ := hreceives
  obtain ⟨start, hfetch⟩ := fetch_of_trail hstarts htrail hlength
  rw [hfetch (.answered hhears hstays)]
  rfl

theorem fetch_of_isCutOff (hcut : client.IsCutOff network request) :
    (client.fetch network request).2 = .error (.timeout request.timeout) := by
  obtain ⟨first, trail, last, hstarts, htrail, hlength, hout⟩ := hcut
  obtain ⟨start, hfetch⟩ := fetch_of_trail hstarts htrail hlength
  cases hout with
  | connecting hlate =>
      rw [hfetch (.unmet hlate)]
      rfl
  | waiting hreply htime hlate =>
      rw [hfetch (.unanswered hreply htime hlate)]
      rfl
  | reading hhears hstays hstatus hlate =>
      rw [fetch_of_receives ⟨first, trail, last, hstarts, htrail, hlength, hhears, hstays⟩]
      exact Response.document_of_isLate hstatus hlate

/-- A client gets from a response what the response says, and all else is a problem of its own
kind. -/
theorem fetch_cases (client : Client) (network : Network) (request : Request) :
    (¬ Url.IsWebText request.url ∧ ∃ reason,
      (client.fetch network request).2 = .error (.invalidUrl request.url reason)) ∨
    (∃ text, (client.fetch network request).2 = .error (.transport text)) ∨
    (client.IsCutOff network request ∧
      (client.fetch network request).2 = .error (.timeout request.timeout)) ∨
    ∃ response left, client.Receives network request response left ∧
      (client.fetch network request).2 = response.document request.timeout left := by
  have hcomes := client.comes_fetch network request
  generalize client.fetch network request = outcome at hcomes ⊢
  cases hcomes with
  | foreign hurl => exact .inl ⟨hurl, _, rfl⟩
  | unsendable => exact .inr (.inl ⟨_, rfl⟩)
  | follows hstarts htrail hlength hend =>
      cases hend with
      | refused | hangUp | spent | foreign => exact .inr (.inl ⟨_, rfl⟩)
      | unmet hlate =>
          exact .inr (.inr (.inl
            ⟨⟨_, _, _, hstarts, htrail, hlength, .connecting hlate⟩, rfl⟩))
      | unanswered hreply htime hlate =>
          exact .inr (.inr (.inl
            ⟨⟨_, _, _, hstarts, htrail, hlength, .waiting hreply htime hlate⟩, rfl⟩))
      | answered hhears hstays =>
          exact .inr (.inr (.inr
            ⟨_, _, ⟨_, _, _, hstarts, htrail, hlength, hhears, hstays⟩, rfl⟩))

/-- Documents, wrong statuses and documents that are not valid come from responses. -/
theorem fetch_eq_iff_exists_receives {result : Except Problem Json}
    (hurl : ∀ text reason, result ≠ .error (.invalidUrl text reason))
    (htransport : ∀ text, result ≠ .error (.transport text))
    (htimeout : ∀ milliseconds, result ≠ .error (.timeout milliseconds)) :
    (client.fetch network request).2 = result ↔
      ∃ response left, client.Receives network request response left ∧
        response.document request.timeout left = result := by
  constructor
  · rintro rfl
    obtain ⟨_, reason, h⟩ | ⟨text, h⟩ | ⟨_, h⟩ | ⟨response, left, hreceives, h⟩ :=
      client.fetch_cases network request
    · exact absurd h (hurl _ _)
    · exact absurd h (htransport _)
    · exact absurd h (htimeout _)
    · exact ⟨response, left, hreceives, h.symm⟩
  · rintro ⟨response, left, hreceives, rfl⟩
    exact fetch_of_receives hreceives

theorem fetch_eq_ok_iff {document : Json} :
    (client.fetch network request).2 = .ok document ↔
      ∃ response left text, client.Receives network request response left ∧
        Status.isSuccess response.status = true ∧ response.Brings left text ∧
        Json.ofText text = .ok document := by
  rw [fetch_eq_iff_exists_receives (by simp) (by simp) (by simp)]
  simp only [Response.document_eq_ok_iff, exists_and_left]

theorem fetch_eq_httpStatus_iff {status : Nat} {reason : String} :
    (client.fetch network request).2 = .error (.httpStatus status reason) ↔
      ∃ response left, client.Receives network request response left ∧
        Status.isSuccess response.status = false ∧ response.status = status ∧
        Status.phrase response.status = reason := by
  rw [fetch_eq_iff_exists_receives (by simp) (by simp) (by simp)]
  simp only [Response.document_eq_httpStatus_iff]

theorem fetch_eq_invalidJson_iff {details : String} :
    (client.fetch network request).2 = .error (.invalidJson details) ↔
      ∃ response left text, client.Receives network request response left ∧
        Status.isSuccess response.status = true ∧ response.Brings left text ∧
        Json.ofText text = .error details := by
  rw [fetch_eq_iff_exists_receives (by simp) (by simp) (by simp)]
  simp only [Response.document_eq_invalidJson_iff, exists_and_left]

theorem fetch_eq_timeout_iff {milliseconds : Nat} :
    (client.fetch network request).2 = .error (.timeout milliseconds) ↔
      client.IsCutOff network request ∧ request.timeout = milliseconds := by
  constructor
  · intro hfetch
    obtain ⟨_, reason, h⟩ | ⟨text, h⟩ | ⟨hcut, h⟩ | ⟨response, left, hreceives, h⟩ :=
      client.fetch_cases network request
    · simp [hfetch] at h
    · simp [hfetch] at h
    · rw [hfetch] at h
      exact ⟨hcut, by simpa using h.symm⟩
    · obtain ⟨hstatus, hlate, hsame⟩ :=
        Response.document_eq_timeout_iff.mp (h.symm.trans hfetch)
      obtain ⟨first, trail, last, hstarts, htrail, hlength, hhears, hstays⟩ := hreceives
      exact ⟨⟨first, trail, last, hstarts, htrail, hlength,
        .reading hhears hstays hstatus hlate⟩, hsame⟩
  · rintro ⟨hcut, rfl⟩
    exact fetch_of_isCutOff hcut

/-- What every request comes to with the client that jobs use, on any network. -/
theorem fetch_standard_classified (network : Network) (request : Request) :
    let calls := (standard.fetch network request).1
    let result := (standard.fetch network request).2
    (¬ Url.IsWebText request.url →
      calls = [] ∧ ∃ reason, result = .error (.invalidUrl request.url reason)) ∧
    calls.length ≤ 6 ∧
    (∀ first trail last, standard.Starts request first →
      Trail (standard.dialling network) first trail last → 6 ≤ trail.length →
      calls = trail.take 6 ∧ ∃ text, result = .error (.transport text)) ∧
    (∀ first trail last, standard.Starts request first →
      Trail (standard.dialling network) first trail last → trail.length ≤ 5 →
      (network last.call).IsLate 10000 → 10000 < last.left →
      calls = trail ∧ ∃ text, result = .error (.transport text)) ∧
    (∀ first lead entry circle, standard.Starts request first →
      Trail (standard.dialling network) first lead entry → entry.url ∈ circle →
      (standard.dialling network).Circles circle → ¬ standard.IsCutOff network request →
      calls.length = 6 ∧ ∃ text, result = .error (.transport text)) ∧
    (∀ document, result = .ok document ↔
      ∃ response left text, standard.Receives network request response left ∧
        Status.isSuccess response.status = true ∧ response.Brings left text ∧
        Json.ofText text = .ok document) ∧
    (∀ status reason, result = .error (.httpStatus status reason) ↔
      ∃ response left, standard.Receives network request response left ∧
        Status.isSuccess response.status = false ∧ response.status = status ∧
        Status.phrase response.status = reason) ∧
    (∀ details, result = .error (.invalidJson details) ↔
      ∃ response left text, standard.Receives network request response left ∧
        Status.isSuccess response.status = true ∧ response.Brings left text ∧
        Json.ofText text = .error details) ∧
    ∀ milliseconds, result = .error (.timeout milliseconds) ↔
      standard.IsCutOff network request ∧ request.timeout = milliseconds := by
  refine ⟨?foreign, standard.length_calls_le network request, ?long, ?impatient, ?circle,
    fun _ => fetch_eq_ok_iff, fun _ _ => fetch_eq_httpStatus_iff,
    fun _ => fetch_eq_invalidJson_iff, fun _ => fetch_eq_timeout_iff⟩
  case foreign =>
    intro hurl
    obtain ⟨reason, hfetch⟩ := fetch_of_not_isWebText hurl standard network
    rw [hfetch]
    exact ⟨rfl, reason, rfl⟩
  case long =>
    intro first trail last hstarts htrail hlong
    obtain ⟨place, hfetch⟩ := fetch_of_long_trail hstarts htrail hlong
    rw [hfetch]
    exact ⟨rfl, _, rfl⟩
  case impatient =>
    intro first trail last hstarts htrail hlength hlate htime
    obtain ⟨place, hfetch⟩ := fetch_of_isLate rfl hstarts htrail hlength hlate htime
    rw [hfetch]
    exact ⟨rfl, _, rfl⟩
  case circle =>
    intro first lead entry circle hstarts hlead hin hcircles hgoes
    obtain ⟨hlength, place, hresult⟩ := fetch_of_circles hstarts hlead hin hcircles hgoes
    exact ⟨hlength, _, hresult⟩

end Client

/-! ## A site -/

namespace Ring

def moved (location : String) (delay : Nat) : Reply :=
  .taken (.after delay (.response ⟨302, [⟨"location", location⟩], .never⟩))

def empty (head body : Nat) : Reply :=
  .taken (.after head
    (.response ⟨200, [], .after body (some (Text.Utf8.encode "\x7b\x7d".toList))⟩))

/-- Two pages that send a client back and forth, one that is gone, one that never comes, one whose
end comes too late and one that comes. -/
def site : Site :=
  ⟨⟨"http", .named "a", 80⟩, [
    ⟨"/ring", moved "/back" 30⟩,
    ⟨"/back", moved "/ring" 20⟩,
    ⟨"/gone", .taken (.after 200 (.response ⟨404, [], .never⟩))⟩,
    ⟨"/mute", .silence⟩,
    ⟨"/slow", empty 200 100⟩,
    ⟨"/soon", empty 100 100⟩]⟩

def met : Network := Client.standard.dialling site.network

def page (segment : String) : Url :=
  ⟨"http", some ⟨"", "", .named "a", none⟩, .rooted [segment], none, none⟩

def request (segment : String) (timeout : Nat) : Request :=
  ⟨"http://a/" ++ segment, .empty, timeout⟩

def visit (segment : String) (timeout : Nat) : Visit :=
  Client.standard.firstVisit (request segment timeout) (page segment)

theorem starts {segment : String} {timeout : Nat}
    (hurl : (Url.ofWebText (request segment timeout).url).toOption = some (page segment))
    (hrequestable : (Client.addressee (page segment)).isRequestable = true) :
    Client.standard.Starts (request segment timeout) (visit segment timeout) := by
  cases hweb : Url.ofWebText (request segment timeout).url with
  | error problem =>
      rw [hweb] at hurl
      contradiction
  | ok url =>
      rw [hweb] at hurl
      obtain rfl : url = page segment := Option.some.inj hurl
      exact .visit hweb (by simp [request, KeyedMap.empty]) hrequestable

theorem met_eq_of_fields (url : Url) (fields : List Field) :
    met (Call.ofUrl url fields) = met (Call.ofUrl url []) := by
  rfl

theorem circles : met.Circles [page "ring", page "back"] := by
  have hring : met (Call.ofUrl (page "ring") []) = .after 0 (moved "/back" 30) := by
    decide +kernel
  have hback : met (Call.ofUrl (page "back") []) = .after 0 (moved "/ring" 20) := by
    decide +kernel
  intro url hin fields
  rw [met_eq_of_fields]
  rcases List.mem_pair.mp hin with rfl | rfl
  · exact ⟨0, 30, _, page "back", hring, by decide +kernel, rfl, by simp⟩
  · exact ⟨0, 20, _, page "ring", hback, by decide +kernel, rfl, by simp⟩

theorem fetch_standard_classified_ring :
    ((Client.standard.fetch site.network (request "ring" 250)).1.length = 6 ∧
      ∃ text, (Client.standard.fetch site.network (request "ring" 250)).2 =
        .error (.transport text)) ∧
    (Client.standard.fetch site.network (request "gone" 250)).2 =
      .error (.httpStatus 404 "Not Found") ∧
    (∃ text, (Client.standard.fetch (fun _ => .never) (request "gone" 15000)).2 =
      .error (.transport text)) ∧
    (Client.standard.fetch site.network (request "mute" 250)).2 = .error (.timeout 250) ∧
    (Client.standard.fetch site.network (request "slow" 250)).2 = .error (.timeout 250) ∧
    ∃ document, (Client.standard.fetch site.network (request "soon" 250)).2 = .ok document ∧
      document.compact = "\x7b\x7d" := by
  refine ⟨?ring, ?gone, ?deaf, ?mute, ?slow, ?soon⟩
  case ring =>
    obtain ⟨_, _, _, _, hcircle, _, _, _, htime⟩ :=
      Client.fetch_standard_classified site.network (request "ring" 250)
    have hstarts : Client.standard.Starts (request "ring" 250) (visit "ring" 250) :=
      starts (by decide +kernel) (by decide +kernel)
    have hurl : (visit "ring" 250).url ∈ [page "ring", page "back"] := by decide +kernel
    have hintime : ((Client.standard.fetch site.network (request "ring" 250)).2 matches
        .error (.timeout _)) = false := by decide +kernel
    have hgoes : ¬ Client.standard.IsCutOff site.network (request "ring" 250) := by
      intro hcut
      rw [(htime 250).mpr ⟨hcut, rfl⟩] at hintime
      contradiction
    exact hcircle _ _ _ _ hstarts (.here _) hurl circles hgoes
  case gone =>
    obtain ⟨_, _, _, _, _, _, hstatus, _⟩ :=
      Client.fetch_standard_classified site.network (request "gone" 250)
    have hstarts : Client.standard.Starts (request "gone" 250) (visit "gone" 250) :=
      starts (by decide +kernel) (by decide +kernel)
    have hhears : Visit.Hears met (visit "gone" 250) ⟨404, [], .never⟩ 50 :=
      ⟨0, 200, by decide +kernel, by decide, rfl⟩
    exact (hstatus 404 "Not Found").mpr
      ⟨_, _, ⟨_, [], _, hstarts, .here _, Nat.zero_le _, hhears, rfl⟩, rfl, rfl, rfl⟩
  case deaf =>
    obtain ⟨_, _, _, himpatient, _⟩ :=
      Client.fetch_standard_classified (fun _ => .never) (request "gone" 15000)
    have hstarts : Client.standard.Starts (request "gone" 15000) (visit "gone" 15000) :=
      starts (by decide +kernel) (by decide +kernel)
    have hlate : Arrival.IsLate 10000 (.never : Arrival Reply) := by simp [Arrival.IsLate]
    exact (himpatient _ _ _ hstarts (.here _) (Nat.zero_le _) hlate (by decide)).2
  case mute =>
    obtain ⟨_, _, _, _, _, _, _, _, htime⟩ :=
      Client.fetch_standard_classified site.network (request "mute" 250)
    have hstarts : Client.standard.Starts (request "mute" 250) (visit "mute" 250) :=
      starts (by decide +kernel) (by decide +kernel)
    have hreply : met (visit "mute" 250).call = .after 0 .silence := by decide +kernel
    have hlate : Arrival.IsLate 250 (.never : Arrival Answer) := by simp [Arrival.IsLate]
    have hout : Visit.RunsOut met (visit "mute" 250) := .waiting hreply (by decide) hlate
    exact (htime 250).mpr ⟨⟨_, [], _, hstarts, .here _, Nat.zero_le _, hout⟩, rfl⟩
  case slow =>
    obtain ⟨_, _, _, _, _, _, _, _, htime⟩ :=
      Client.fetch_standard_classified site.network (request "slow" 250)
    have hstarts : Client.standard.Starts (request "slow" 250) (visit "slow" 250) :=
      starts (by decide +kernel) (by decide +kernel)
    have hhears : Visit.Hears met (visit "slow" 250)
        ⟨200, [], .after 100 (some (Text.Utf8.encode "\x7b\x7d".toList))⟩ 50 :=
      ⟨0, 200, by decide +kernel, by decide, rfl⟩
    have hout : Visit.RunsOut met (visit "slow" 250) :=
      .reading hhears rfl rfl (Arrival.isLate_after_iff.mpr (by decide))
    exact (htime 250).mpr ⟨⟨_, [], _, hstarts, .here _, Nat.zero_le _, hout⟩, rfl⟩
  case soon =>
    obtain ⟨_, _, _, _, _, hok, _⟩ :=
      Client.fetch_standard_classified site.network (request "soon" 250)
    have hstarts : Client.standard.Starts (request "soon" 250) (visit "soon" 250) :=
      starts (by decide +kernel) (by decide +kernel)
    have hhears : Visit.Hears met (visit "soon" 250)
        ⟨200, [], .after 100 (some (Text.Utf8.encode "\x7b\x7d".toList))⟩ 150 :=
      ⟨0, 100, by decide +kernel, by decide, rfl⟩
    have hreceives : Client.standard.Receives site.network (request "soon" 250) _ 150 :=
      ⟨_, [], _, hstarts, .here _, Nat.zero_le _, hhears, rfl⟩
    have hdecoded : "\x7b\x7d" = String.ofList ((ContentType.encodingOf []).decode
        (Text.Utf8.encode "\x7b\x7d".toList)) := by decide +kernel
    have hread : ((Json.ofText "\x7b\x7d").map Json.compact).toOption = some "\x7b\x7d" := by
      decide +kernel
    cases hjson : Json.ofText "\x7b\x7d" with
    | error details =>
        rw [hjson] at hread
        contradiction
    | ok document =>
        rw [hjson] at hread
        exact ⟨document, (hok document).mpr ⟨_, 150, "\x7b\x7d", hreceives, rfl,
          ⟨100, _, rfl, by decide, hdecoded⟩, hjson⟩, Option.some.inj hread⟩

end Ring

end Http

end JsonExtract
