import WorkflowRuns.Proofs.Client.Requests
import WorkflowRuns.Proofs.Json.Documents

/-!
How a request ends that brings nothing.  Besides the failures that the client declares there are two
more: an address that cannot be formed, and an embedded integer of too many digits.
-/

namespace WorkflowRuns

def Failure.isDeclared : Failure → Bool
  | .transport _ _ | .malformedPayload _ | .notInitialized _ => true
  | _ => false

def Response.IsAnswered (response : Response) : Prop := ∃ status body, response = .answered status body

theorem Response.ne_answered {response : Response} (lost : ¬ response.IsAnswered) (status : Int) (body : List UInt8) :
    response ≠ .answered status body :=
  fun answered => lost ⟨status, body, answered⟩

namespace Client

variable {response : Response} {body : List UInt8}

def Embeds (body : List UInt8) (results : Json.Document) : Prop :=
  ∃ document fields, readBody body = .ok document ∧ document.field? "data" = some (.record fields) ∧
    (Json.Document.record fields).field? "results" = some results

theorem answer_lost (method path : String) (lost : ¬ response.IsAnswered) :
    ∃ words, answer method path response = .error (.transport words none) := by
  cases response with
  | answered status body => exact absurd ⟨status, body, rfl⟩ lost
  | timedOut words => exact ⟨_, rfl⟩
  | broken words => exact ⟨_, rfl⟩

theorem submitted_lost (id : String) (lost : ¬ response.IsAnswered) :
    ∃ words, submitted id response = .error (.transport words none) := by
  obtain ⟨words, failed⟩ := answer_lost "POST" submissionPath lost
  refine ⟨words, ?_⟩
  rw [submitted, failed]
  rfl

theorem submitted_answered (id : String) (status : Int) (body : List UInt8) :
    submitted id (.answered status body) =
      if status = 200 ∨ status = 201 then .ok id else .error (statusFailure status) := by
  unfold submitted answer
  by_cases accepted : status = 200 ∨ status = 201
  · simp [accepted, bind, Except.bind, pure, Except.pure]
  · simp [accepted, bind, Except.bind, throw, throwThe, MonadExceptOf.throw]

theorem fetched_lost (runId : String) (lost : ¬ response.IsAnswered) :
    ∃ words, fetched runId response = .error (.transport words none) := by
  obtain ⟨words, failed⟩ := answer_lost "GET" (statusPath runId) lost
  refine ⟨words, ?_⟩
  rw [fetched, failed]
  rfl

theorem fetched_refused (runId : String) {status : Int} (refused : status ≠ 200) (body : List UInt8) :
    fetched runId (.answered status body) = .error (statusFailure status) := by
  unfold fetched answer
  simp [refused, bind, Except.bind, throw, throwThe, MonadExceptOf.throw]

theorem readBody_nil (document : Json.Document) : readBody [] ≠ .ok document := by
  intro read
  have empty : (Json.readDocument []).isOk = false := rfl
  change (Json.readDocument []).mapError Json.Error.message = .ok document at read
  cases result : Json.readDocument [] with
  | error error =>
      rw [result] at read
      cases read
  | ok value =>
      rw [result] at empty
      cases empty

theorem Embeds.fetched_eq {results : Json.Document} (embeds : Embeds body results) (runId : String) :
    fetched runId (.answered 200 body) = content results := by
  obtain ⟨document, fields, read, data, held⟩ := embeds
  have present : body.isEmpty = false := by
    cases body with
    | nil => exact absurd read (readBody_nil document)
    | cons first rest => rfl
  have nonempty : fields ≠ [] := by
    rintro rfl
    cases held
  have whole : embedded document = content results := by
    obtain ⟨field, fields, rfl⟩ := List.exists_cons_of_ne_nil nonempty
    rw [embedded, data]
    simp only [held, Option.getD_some]
  simp [fetched, answer, present, read, whole, bind, Except.bind]

theorem content_digits {text : List Text.CodePoint} {count : Nat}
    (overlong : Json.readDocument text = .error (.digits count)) :
    content (.text text) = .error (.badValue (Text.digitLimitMessage count)) := by
  have nonempty : text ≠ [] := by
    rintro rfl
    cases overlong
  simp [content, Json.Document.isBlank, nonempty, overlong]

/-- What the body of an accepted request can come to. -/
inductive Received (body : List UInt8) : Except Failure (List Text.CodePoint) → Prop
  | text (text : List Text.CodePoint) : Received body (.ok text)
  | malformed (words : String) : Received body (.error (.malformedPayload words))
  | overlong (text : List Text.CodePoint) (count : Nat) (embeds : Embeds body (.text text))
      (overlong : Json.readDocument text = .error (.digits count)) :
      Received body (.error (.badValue (Text.digitLimitMessage count)))

theorem field?_text {d : Json.Document} {name : String} {text : List Text.CodePoint}
    (held : (d.field? name).getD .null = .text text) : d.field? name = some (.text text) := by
  cases found : d.field? name with
  | none => simp [found] at held
  | some content => simpa [found] using held

theorem received_content {document : Json.Document} {fields : List (List Text.CodePoint × Json.Document)}
    (read : readBody body = .ok document) (data : document.field? "data" = some (.record fields)) :
    Received body (content (((Json.Document.record fields).field? "results").getD .null)) := by
  unfold content
  split
  next => exact .malformed _
  next =>
    split
    next text results =>
      split
      next => exact .text text
      next => exact .malformed _
      next count failed => exact .overlong text count ⟨document, fields, read, data, field?_text results⟩ failed
    next => exact .text _

theorem fetched_received (runId : String) (body : List UInt8) :
    Received body (fetched runId (.answered 200 body)) := by
  simp only [fetched, answer, bind, Except.bind, ne_eq, not_true_eq_false, if_false]
  split
  next => exact .malformed _
  next =>
    cases read : readBody body with
    | error words => exact .malformed _
    | ok document =>
        simp only [embedded]
        split
        next => exact .malformed _
        next fields nonempty data => exact received_content read data
        next => exact .malformed _

end Client

namespace Service

open Client

variable {s : Service} {runId : String}

/-- How a status request ends without a text. -/
structure FetchFails (s : Service) (runId : String) (result : Except Failure (List Text.CodePoint)) : Prop where
  unnamed : (∃ words, result = .error (.notInitialized words)) ↔ Text.isAllBlank runId
  refused : ∀ status, (∃ words, result = .error (.transport words (some status))) ↔
    s.Asks runId ∧ status ≠ 200 ∧ ∃ body, s.gives = .answered status body
  lost : (∃ words, result = .error (.transport words none)) ↔ s.Asks runId ∧ ¬ s.gives.IsAnswered
  unaddressed : (∃ words, result = .error (.invalidUrl words)) ↔
    Text.isAllBlank runId = false ∧ ¬ Reachable s.base (statusPath runId)
  overlong : (∃ words, result = .error (.badValue words)) ↔ s.Asks runId ∧ ∃ body text count,
    s.gives = .answered 200 body ∧ Embeds body (.text text) ∧ Json.readDocument text = .error (.digits count)
  otherwise : ∀ failure, result = .error failure →
    failure.isDeclared ∨ (∃ words, failure = .invalidUrl words) ∨ ∃ words, failure = .badValue words

/-- How a submission ends without a run. -/
structure PostFails (s : Service) (result : Except Failure String) : Prop where
  refused : ∀ status, (∃ words, result = .error (.transport words (some status))) ↔
    s.base.Fits (s.base.location ++ "workflow") ∧ status ≠ 200 ∧ status ≠ 201 ∧
      ∃ body, s.admits = .answered status body
  lost : (∃ words, result = .error (.transport words none)) ↔
    s.base.Fits (s.base.location ++ "workflow") ∧ ¬ s.admits.IsAnswered
  unaddressed : (∃ words, result = .error (.invalidUrl words)) ↔ ¬ s.base.Fits (s.base.location ++ "workflow")
  otherwise : ∀ failure, result = .error failure →
    (∃ words status, failure = .transport words status) ∨ ∃ words, failure = .invalidUrl words

theorem FetchFails.of_lost (asks : s.Asks runId) (lost : ¬ s.gives.IsAnswered) :
    FetchFails s runId (fetched runId s.gives) := by
  obtain ⟨words, failed⟩ := fetched_lost runId lost
  have unanswered := Response.ne_answered lost
  rw [failed]
  constructor <;> simp [asks, asks.named, asks.reachable, lost, unanswered, Failure.isDeclared]

theorem FetchFails.of_refused (asks : s.Asks runId) {status : Int} {body : List UInt8} (refused : status ≠ 200)
    (gives : s.gives = .answered status body) : FetchFails s runId (fetched runId s.gives) := by
  have answered : (Response.answered status body).IsAnswered := ⟨status, body, rfl⟩
  rw [gives, fetched_refused runId refused body]
  constructor
  case refused =>
    intro code
    simp only [statusFailure, gives, Except.error.injEq, Failure.transport.injEq, Option.some.injEq,
      exists_and_right, exists_eq', true_and, asks, Response.answered.injEq, exists_and_left, and_true]
    constructor
    · rintro rfl
      exact ⟨refused, rfl⟩
    · exact And.right
  all_goals simp [statusFailure, asks, asks.named, asks.reachable, gives, refused, answered, Failure.isDeclared]

theorem FetchFails.of_accepted (asks : s.Asks runId) {body : List UInt8} (gives : s.gives = .answered 200 body) :
    FetchFails s runId (fetched runId s.gives) := by
  have received := fetched_received runId body
  rw [← gives] at received
  have overlong : (∃ words, fetched runId s.gives = .error (.badValue words)) ↔ s.Asks runId ∧ ∃ body text count,
      s.gives = .answered 200 body ∧ Embeds body (.text text) ∧ Json.readDocument text = .error (.digits count) := by
    constructor
    · rintro ⟨words, failed⟩
      rw [failed] at received
      cases received with
      | overlong text count embeds digits => exact ⟨asks, body, text, count, gives, embeds, digits⟩
    · rintro ⟨_, other, text, count, same, embeds, digits⟩
      rw [same, embeds.fetched_eq, content_digits digits]
      exact ⟨_, rfl⟩
  have answered : s.gives.IsAnswered := ⟨200, body, gives⟩
  have accepted : ∀ status : Int, status ≠ 200 → ∀ other, s.gives ≠ .answered status other := by
    rintro status refused other same
    rw [gives] at same
    cases same
    exact refused rfl
  generalize fetched runId s.gives = result at received overlong ⊢
  refine ⟨?_, ?_, ?_, ?_, overlong, ?_⟩ <;> cases received <;>
    simp +contextual [asks, asks.named, asks.reachable, answered, accepted, Failure.isDeclared]

theorem Asks.fails (asks : s.Asks runId) : FetchFails s runId (fetched runId s.gives) := by
  by_cases answered : s.gives.IsAnswered
  · obtain ⟨status, body, gives⟩ := answered
    by_cases accepted : status = 200
    · subst accepted
      exact .of_accepted asks gives
    · exact .of_refused asks accepted gives
  · exact .of_lost asks answered

theorem Fetched.fails {exchange : Exchange Failure (List Text.CodePoint)} (fetched : Fetched s runId exchange) : FetchFails s runId exchange.result := by
  cases fetched with
  | unnamed blank =>
      have unasked : ¬ s.Asks runId := fun asks => by simp [asks.named] at blank
      constructor <;> simp [refusal, blank, unasked, Failure.isDeclared]
  | unreachable named not fault =>
      have unasked : ¬ s.Asks runId := fun asks => not asks.reachable
      constructor <;> simp [refusal, named, not, unasked]
  | asked asks request delay => exact asks.fails

theorem PostFails.of_answered (fits : s.base.Fits (s.base.location ++ "workflow")) (id : String) {status : Int}
    {body : List UInt8} (admits : s.admits = .answered status body) : PostFails s (submitted id s.admits) := by
  have answered : s.admits.IsAnswered := ⟨status, body, admits⟩
  rw [admits, submitted_answered]
  by_cases accepted : status = 200 ∨ status = 201
  · rw [if_pos accepted]
    constructor
    case refused =>
      intro code
      simp only [fits, admits, Response.answered.injEq, reduceCtorEq, exists_false, false_iff, true_and]
      rintro ⟨not200, not201, _, same, _⟩
      omega
    all_goals simp [fits, answered]
  · rw [if_neg accepted]
    constructor
    case refused =>
      intro code
      simp only [fits, admits, statusFailure, Except.error.injEq, Failure.transport.injEq, Option.some.injEq,
        exists_and_right, exists_eq', true_and, Response.answered.injEq, exists_and_left, and_true]
      omega
    all_goals simp [fits, answered, statusFailure]

theorem PostFails.of_lost (fits : s.base.Fits (s.base.location ++ "workflow")) (id : String)
    (lost : ¬ s.admits.IsAnswered) : PostFails s (submitted id s.admits) := by
  obtain ⟨words, failed⟩ := submitted_lost id lost
  have unanswered := Response.ne_answered lost
  rw [failed]
  constructor <;> simp [fits, lost, unanswered]

theorem Posted.fails {exchange : Exchange Failure String} (posted : Posted s exchange) : PostFails s exchange.result := by
  cases posted with
  | unreachable unfit fault => constructor <;> simp [refusal, unfit]
  | asked fits request delay id =>
      by_cases answered : s.admits.IsAnswered
      · obtain ⟨status, body, admits⟩ := answered
        exact .of_answered fits id admits
      · exact .of_lost fits id answered

/-- Whatever the service does, a status request and a submission fail in these ways and no others. -/
theorem client_failures (s : Service) (graph : Graph) (runId : String) (wanted : Option String) :
    FetchFails s runId (s.fetch runId).1.result ∧ PostFails s (s.post graph wanted).1.result :=
  ⟨(fetch_spec s runId).fails, (post_spec s graph wanted).fails⟩

def mute : Service := ⟨⟨"http", "", "localhost", some 8080, "/v1/", none⟩, [], [], 0⟩

/-- A control character in a run id, and an embedded integer of 4301 digits, end in failures that are not
declared. -/
theorem undeclared_failures :
    (∃ failure, (mute.fetch "a\x01b").1.result = .error failure ∧ failure.isDeclared = false) ∧
      ∃ failure, content (.text (String.ofList (List.replicate 4301 '7'))) = .error failure ∧
        failure.isDeclared = false := by
  constructor
  · have unreachable : ¬ Reachable mute.base (statusPath "a\x01b") := fun reachable =>
      absurd (reachable.readable.2 '\x01' (by decide)) (by decide)
    obtain ⟨words, failed⟩ := (fetch_spec mute "a\x01b").fails.unaddressed.mpr ⟨by decide, unreachable⟩
    exact ⟨_, failed, rfl⟩
  · have sevens : ∀ count, 0 < count → Json.Whole (List.replicate count '7') := fun count some =>
      Or.inr ⟨fun c member => by rw [List.eq_of_mem_replicate member]; rfl, by simp; omega,
        by simp [List.head?_replicate]⟩
    have overlong := Json.readDocument_overlong false (sevens 4301 (by decide)) (by rw [List.length_replicate]; decide)
    exact ⟨_, content_digits overlong, rfl⟩

end Service

end WorkflowRuns
