import WorkflowRuns.Script

/-!
When the service is asked.  A request goes out where its address can be formed, and what comes of
it is read from the answer alone.
-/

namespace WorkflowRuns

def Reference.Readable (text : String) : Prop :=
  text.length ≤ lengthLimit ∧ ∀ c ∈ text.toList, isControl c = false

theorem Reference.readable_of_all {text : String} (short : text.length ≤ lengthLimit)
    (printable : text.toList.all (fun c => !isControl c) = true) : Readable text := by
  refine ⟨short, fun c member => ?_⟩
  simpa only [Bool.not_eq_true'] using List.all_eq_true.mp printable c member

theorem Reference.readable_spec (text : String) :
    (Readable text ∧ readable text = .ok text.toList) ∨ (¬ Readable text ∧ ∃ fault, readable text = .error fault) := by
  unfold Readable readable
  simp only [String.length_toList]
  split
  next long => exact Or.inr ⟨fun short => absurd short.1 (Nat.not_le.mpr long), _, rfl⟩
  next short =>
    split
    next c control =>
      refine Or.inr ⟨fun plain => ?_, _, rfl⟩
      have printable := plain.2 c (List.mem_of_find?_eq_some control)
      rw [List.find?_some control] at printable
      cases printable
    next none => exact Or.inl ⟨⟨Nat.not_lt.mp short, by simpa using none⟩, rfl⟩

/-- The parts of an address with a path and a query are not too long. -/
structure Url.Fits (url : Url) (location : String) : Prop where
  authority : url.authority.length ≤ Reference.lengthLimit
  path : (location.toList.takeWhile (· ≠ '?')).length ≤ Reference.lengthLimit
  query : (location.toList.dropWhile (· ≠ '?')).tail.length ≤ Reference.lengthLimit

theorem Url.located_spec (url : Url) (location : String) :
    (url.Fits location ∧ ∃ placed, url.located location = .ok placed) ∨
      (¬ url.Fits location ∧ ∃ fault, url.located location = .error fault) := by
  unfold located
  simp only
  split
  next long => exact Or.inr ⟨fun fits => absurd fits.authority (Nat.not_le.mpr long), _, rfl⟩
  next authority =>
    split
    next long => exact Or.inr ⟨fun fits => absurd fits.path (Nat.not_le.mpr long), _, rfl⟩
    next path =>
      cases after : location.toList.dropWhile (· ≠ '?') with
      | nil =>
          refine Or.inl ⟨⟨Nat.not_lt.mp authority, Nat.not_lt.mp path, ?_⟩, _, rfl⟩
          rw [after]
          exact Nat.zero_le _
      | cons mark query =>
          simp only [Option.any_some, decide_eq_true_eq, String.length_ofList]
          split
          next long =>
            refine Or.inr ⟨fun fits => absurd fits.query (Nat.not_le.mpr ?_), _, rfl⟩
            rwa [after]
          next short =>
            refine Or.inl ⟨⟨Nat.not_lt.mp authority, Nat.not_lt.mp path, ?_⟩, _, rfl⟩
            rw [after]
            exact Nat.not_lt.mp short

namespace Client

/-- An address can be formed of a path below another address. -/
structure Reachable (base : Url) (path : String) : Prop where
  readable : Reference.Readable path
  fits : base.Fits (base.location ++
    String.ofList ((Reference.split path.toList).text.toList.dropWhile (· = '/')))

theorem url_spec (base : Url) (path : String) :
    (Reachable base path ∧ ∃ address, url base path = .ok address) ∨
      (¬ Reachable base path ∧ ∃ fault : UrlFault, url base path = .error (.invalidUrl fault.message)) := by
  unfold url Reference.read
  rcases Reference.readable_spec path with ⟨readable, same⟩ | ⟨unreadable, fault, failed⟩
  · rw [same]
    rcases base.located_spec (base.location ++
      String.ofList ((Reference.split path.toList).text.toList.dropWhile (· = '/'))) with
      ⟨fits, address, placed⟩ | ⟨overlong, fault, failed⟩
    · refine Or.inl ⟨⟨readable, fits⟩, address, ?_⟩
      show (base.extend (Reference.split path.toList)).mapError urlFailure = _
      rw [Url.extend, placed]
      rfl
    · refine Or.inr ⟨fun reachable => overlong reachable.fits, fault, ?_⟩
      show (base.extend (Reference.split path.toList)).mapError urlFailure = _
      rw [Url.extend, failed]
      rfl
  · refine Or.inr ⟨fun reachable => unreadable reachable.readable, fault, ?_⟩
    rw [failed]
    rfl

theorem reachable_submission_iff (base : Url) :
    Reachable base submissionPath ↔ base.Fits (base.location ++ "workflow") := by
  have below : String.ofList ((Reference.split submissionPath.toList).text.toList.dropWhile (· = '/')) =
      "workflow" := by decide +kernel
  have readable : Reference.Readable submissionPath := Reference.readable_of_all (by decide) (by decide +kernel)
  constructor
  · intro reachable
    rw [← below]
    exact reachable.fits
  · intro fits
    rw [← below] at fits
    exact ⟨readable, fits⟩

end Client

namespace Service

/-- A run can be asked for. -/
structure Asks (s : Service) (runId : String) : Prop where
  named : Text.isAllBlank runId = false
  reachable : Client.Reachable s.base (Client.statusPath runId)

def gives (s : Service) : Response := (take 404 s.gets).1.answer

def admits (s : Service) : Response := (take 201 s.posts).1.answer

/-- What a status request can come to. -/
inductive Fetched (s : Service) (runId : String) : Exchange Failure (List Text.CodePoint) → Prop
  | unnamed (blank : Text.isAllBlank runId = true) :
      Fetched s runId (refusal (.notInitialized "Invalid workflow ID provided"))
  | unreachable (named : Text.isAllBlank runId = false)
      (unreachable : ¬ Client.Reachable s.base (Client.statusPath runId)) (fault : UrlFault) :
      Fetched s runId (refusal (.invalidUrl fault.message))
  | asked (asks : s.Asks runId) (request : Request) (delay : Delay) :
      Fetched s runId ⟨some (.request request), delay, Client.fetched runId s.gives⟩

theorem fetch_spec (s : Service) (runId : String) : Fetched s runId (s.fetch runId).1 := by
  unfold fetch
  split
  next blank => exact .unnamed blank
  next named =>
    rw [Bool.not_eq_true] at named
    rcases Client.url_spec s.base (Client.statusPath runId) with ⟨reachable, address, formed⟩ | ⟨not, fault, failed⟩
    · rw [formed]
      exact .asked ⟨named, reachable⟩ _ _
    · rw [failed]
      exact .unreachable named not fault

variable {s : Service} {runId : String} {exchange : Exchange Failure (List Text.CodePoint)}

theorem Fetched.sent_iff (fetched : Fetched s runId exchange) : exchange.sent.isSome ↔ s.Asks runId := by
  cases fetched with
  | unnamed blank =>
      refine iff_of_false nofun fun asks => ?_
      rw [asks.named] at blank
      cases blank
  | unreachable named not fault => exact iff_of_false nofun fun asks => not asks.reachable
  | asked asks request delay => exact iff_of_true rfl asks

theorem Fetched.result_eq (fetched : Fetched s runId exchange) (asks : s.Asks runId) :
    exchange.result = Client.fetched runId s.gives := by
  cases fetched with
  | unnamed blank =>
      rw [asks.named] at blank
      cases blank
  | unreachable named not fault => exact absurd asks.reachable not
  | asked _ request delay => rfl

/-- What a submission can come to. -/
inductive Posted (s : Service) : Exchange Failure String → Prop
  | unreachable (unfit : ¬ s.base.Fits (s.base.location ++ "workflow")) (fault : UrlFault) :
      Posted s (refusal (.invalidUrl fault.message))
  | asked (fits : s.base.Fits (s.base.location ++ "workflow")) (request : Request) (delay : Delay)
      (id : String) : Posted s ⟨some (.request request), delay, Client.submitted id s.admits⟩

theorem post_spec (s : Service) (graph : Graph) (wanted : Option String) : Posted s (s.post graph wanted).1 := by
  unfold post
  split
  next id numbered chosen =>
    -- Numbering a run leaves the address and the script.
    have same : numbered.base = s.base ∧ numbered.posts = s.posts := by
      split at chosen
      next => split at chosen <;> (cases chosen; exact ⟨rfl, rfl⟩)
      next =>
        cases chosen
        exact ⟨rfl, rfl⟩
    rw [same.1, same.2]
    rcases Client.url_spec s.base Client.submissionPath with ⟨reachable, address, formed⟩ | ⟨not, fault, failed⟩
    · rw [formed]
      exact .asked ((Client.reachable_submission_iff s.base).mp reachable) _ _ id
    · rw [failed]
      exact .unreachable (mt (Client.reachable_submission_iff s.base).mpr not) fault

end Service

end WorkflowRuns
