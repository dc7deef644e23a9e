import SignOn.Proofs.Profiles

/-!
What comes of one request to the provider. It is answered well where the library gives a response of
success whose JSON value is an object; that is all that is made of it. Anything else is a failure.
It is blamed on the provider, but for an exception that is neither one of the library nor a value
error, and but for any exception at all while the text of a response without success is read.
-/

namespace SignOn

open Exchange

namespace OAuth2Login

variable {answer : Except HttpException HttpResponse} {response : HttpResponse}
  {entries : Entries Value} {request : ProviderRequest} {failure : Failure}

/-- A good answer: a response of success, whose JSON value is an object. -/
structure Tells (answer : Except HttpException HttpResponse) (entries : Entries Value) : Prop where
  arrived : ∃ response, answer = .ok response ∧ 200 ≤ response.status ∧ response.status < 300 ∧
    response.json = .ok (.table entries)

/-- The failures that are not blamed on the provider. -/
inductive Escapes (answer : Except HttpException HttpResponse) : Failure → Prop where
  | unanswered (exception : String) (raised : answer = .error (.other exception)) :
      Escapes answer (.escaped exception)
  | unread (response : HttpResponse) (exception : String) (arrived : answer = .ok response)
      (least : 200 ≤ response.status) (most : response.status < 300)
      (raised : response.json = .error (.other exception)) : Escapes answer (.escaped exception)
  | garbled (response : HttpResponse) (exception : HttpException) (arrived : answer = .ok response)
      (bad : ¬ (200 ≤ response.status ∧ response.status < 300))
      (raised : response.text = .error exception) : Escapes answer (.escaped exception.name)

theorem isSuccess_iff {status : Int} : isSuccess status = true ↔ 200 ≤ status ∧ status < 300 := by
  simp [isSuccess]

theorem readResponse_of_success (least : 200 ≤ response.status) (most : response.status < 300) :
    readResponse response = readJson response.json :=
  if_pos (isSuccess_iff.2 ⟨least, most⟩)

theorem readResponse_of_no_success (bad : ¬ (200 ≤ response.status ∧ response.status < 300)) :
    readResponse response = readError response.status response.text :=
  if_neg (mt isSuccess_iff.1 bad)

theorem readJson_eq_ok_iff {told : Except HttpException Value} :
    readJson told = .ok entries ↔ told = .ok (.table entries) := by
  unfold readJson
  split
  next => simp
  next => simp
  next value other => simpa using other entries

theorem readError_ne_ok {status : Int} {told : Except HttpException String} :
    readError status told ≠ .ok entries := by
  cases told <;> exact nofun

theorem ofException_eq_escaped_iff {exception : HttpException} {name : String} :
    Unanswered.ofException exception = .escaped name ↔ exception = .other name := by
  cases exception <;> simp [Unanswered.ofException]

theorem readJson_eq_escaped_iff {told : Except HttpException Value} {name : String} :
    readJson told = .error (.escaped name) ↔ told = .error (.other name) := by
  unfold readJson
  split <;> simp [ofException_eq_escaped_iff]

theorem readError_eq_escaped_iff {status : Int} {told : Except HttpException String}
    {name : String} : readError status told = .error (.escaped name) ↔
      ∃ exception, told = .error exception ∧ exception.name = name := by
  cases told <;> simp [readError]

theorem readAnswer_eq_ok_iff : readAnswer answer = .ok entries ↔ Tells answer entries := by
  constructor
  · intro read
    cases answer with
    | error exception => cases read
    | ok response =>
      change readResponse response = _ at read
      by_cases good : 200 ≤ response.status ∧ response.status < 300
      · rw [readResponse_of_success good.1 good.2, readJson_eq_ok_iff] at read
        exact ⟨response, rfl, good.1, good.2, read⟩
      · rw [readResponse_of_no_success good] at read
        exact absurd read readError_ne_ok
  · rintro ⟨response, rfl, least, most, told⟩
    change readResponse response = _
    rw [readResponse_of_success least most, readJson_eq_ok_iff]
    exact told

theorem readAnswer_eq_escaped_iff {name : String} :
    readAnswer answer = .error (.escaped name) ↔ Escapes answer (.escaped name) := by
  constructor
  · intro read
    cases answer with
    | error exception =>
      have same : Unanswered.ofException exception = .escaped name := Except.error.inj read
      exact .unanswered name (congrArg _ (ofException_eq_escaped_iff.1 same))
    | ok response =>
      change readResponse response = _ at read
      by_cases good : 200 ≤ response.status ∧ response.status < 300
      · rw [readResponse_of_success good.1 good.2, readJson_eq_escaped_iff] at read
        exact .unread response name rfl good.1 good.2 read
      · rw [readResponse_of_no_success good, readError_eq_escaped_iff] at read
        obtain ⟨exception, raised, rfl⟩ := read
        exact .garbled response exception rfl good raised
  · intro escapes
    cases escapes with
    | unanswered _ raised =>
      rw [raised]
      rfl
    | unread response _ arrived least most raised =>
      rw [arrived]
      exact (readResponse_of_success least most).trans (readJson_eq_escaped_iff.2 raised)
    | garbled response exception arrived bad raised =>
      rw [arrived]
      exact (readResponse_of_no_success bad).trans
        (readError_eq_escaped_iff.2 ⟨exception, raised, rfl⟩)

theorem Tells.unique {others : Entries Value} (one : Tells answer entries)
    (other : Tells answer others) : entries = others :=
  Except.ok.inj ((readAnswer_eq_ok_iff.2 one).symm.trans (readAnswer_eq_ok_iff.2 other))

theorem reply_eq_ok_iff : reply request answer = .ok entries ↔ Tells answer entries := by
  rw [← readAnswer_eq_ok_iff, reply]
  constructor
  · intro replied
    cases found : readAnswer answer with
    | ok told =>
      rw [found] at replied
      cases replied
      rfl
    | error unanswered =>
      rw [found] at replied
      cases replied
  · intro told
    rw [told]
    rfl

/-- A request that is of no use is blamed on the provider, or has escaped. -/
theorem blamed_or_escapes (read : reply request answer = .error failure) :
    Escapes answer failure ∨
      ∃ fault, failure = .provider (.call request.method request.url fault) := by
  unfold reply at read
  cases found : readAnswer answer with
  | ok entries =>
    rw [found] at read
    cases read
  | error unanswered =>
    rw [found] at read
    cases unanswered with
    | fault blamed =>
      cases read
      exact .inr ⟨blamed, rfl⟩
    | escaped name =>
      cases read
      exact .inl (readAnswer_eq_escaped_iff.1 found)

theorem reply_of_escapes (escapes : Escapes answer failure) :
    reply request answer = .error failure := by
  obtain ⟨name, rfl⟩ : ∃ name, failure = .escaped name := by
    cases escapes <;> exact ⟨_, rfl⟩
  rw [reply, readAnswer_eq_escaped_iff.2 escapes]
  rfl

/-- Between two states the provider was asked, and no one else learned of it. -/
structure Asked (before after : State) (requests : List ProviderRequest) : Prop where
  received : after.provider.received = before.provider.received ++ requests
  session : after.session = before.session
  response : after.response = before.response

theorem Asked.trans {before middle after : State} {first second : List ProviderRequest}
    (one : Asked before middle first) (other : Asked middle after second) :
    Asked before after (first ++ second) where
  received := by rw [other.received, one.received, List.append_assoc]
  session := other.session.trans one.session
  response := other.response.trans one.response

end OAuth2Login

end SignOn
