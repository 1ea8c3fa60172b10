import JsonExtract.Proofs.Http.Classification
import JsonExtract.Proofs.Text.Utf8

/-!
# Addresses that are served

An address serves a text within a limit if calls can be made out to it and each of them is
answered with the text, whatever fields the call carries, before the limit is reached.  A client
that allows so much time gets the document of the text.
-/

namespace JsonExtract.Http

def Response.ofText (fields : List Field) (delay : Nat) (text : String) : Response :=
  ⟨200, fields, .after delay (some (Text.Utf8.encode text.toList))⟩

/-- Whether calls can be made out to an address, and are all answered with the text in less than
the limit, and taken before a client with the usual patience gives up. -/
def Network.Serves (network : Network) (limit : Nat) (address : String) (fields : List Field)
    (text : String) : Prop :=
  ∃ url, Url.ofWebText address = .ok url ∧ (Client.addressee url).isRequestable = true ∧
    ∀ sent, ∃ connect head delay,
      network (Call.ofUrl (Client.addressee url).asRequested sent) =
        .after connect (.taken (.after head (.response (.ofText fields delay text)))) ∧
      connect < Client.connectTimeout ∧ connect + head + delay < limit

/-- A text that is sent without a type and without a mark of the byte order is read as it is. -/
theorem Response.brings_ofText {fields : List Field} {text : String}
    (htype : Field.find? "content-type" fields = none)
    (hmark : text.toList.head? ≠ some '\ufeff') {delay left : Nat} (htime : delay < left) :
    (Response.ofText fields delay text).Brings left text := by
  have hencoding : ContentType.encodingOf fields = .utf8 := by
    rw [ContentType.encodingOf, htype]
    rfl
  refine ⟨delay, _, rfl, htime, ?_⟩
  simp only [ofText, hencoding, Text.Utf8.decode_utf8_encode hmark, String.ofList_toList]

/-- What a client gets from an address that serves a text soon enough. -/
theorem Client.fetch_of_serves {network : Network} {request : Request} {fields : List Field}
    {text : String} (hserves : network.Serves request.timeout request.url fields text)
    (htype : Field.find? "content-type" fields = none)
    (hmark : text.toList.head? ≠ some '\ufeff')
    (hheaders : ∀ entry ∈ request.headers.entries, Field.isSendable entry.1 entry.2 = true) :
    (standard.fetch network request).2 = (Json.ofText text).mapError .invalidJson := by
  obtain ⟨url, hurl, hrequestable, hanswers⟩ := hserves
  have hstarts : standard.Starts request (standard.firstVisit request url) :=
    .visit hurl hheaders hrequestable
  obtain ⟨connect, head, delay, hreply, hpatience, htime⟩ :=
    hanswers (standard.firstVisit request url).fields
  have hdialled : standard.dialling network (standard.firstVisit request url).call =
      .after connect (.taken (.after head (.response (.ofText fields delay text)))) :=
    dialling_of_lt hreply (by rintro _ ⟨⟩; exact hpatience)
  have hhears : Visit.Hears (standard.dialling network) (standard.firstVisit request url)
      (.ofText fields delay text) (request.timeout - (connect + head)) :=
    ⟨connect, head, hdialled, Nat.lt_of_le_of_lt (Nat.le_add_right _ delay) htime, rfl⟩
  have hreceives : standard.Receives network request (.ofText fields delay text)
      (request.timeout - (connect + head)) :=
    ⟨_, [], _, hstarts, .here _, Nat.zero_le _, hhears, rfl⟩
  have hleft : delay < request.timeout - (connect + head) := by omega
  have hbrings := Response.brings_ofText htype hmark hleft
  rw [fetch_of_receives hreceives, Response.document_of_brings rfl hbrings]

end JsonExtract.Http
