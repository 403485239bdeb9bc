import Mathlib.Data.List.TakeWhile
import WorkflowRuns.Proofs.Client.Failures
import WorkflowRuns.Proofs.Url.Encoding

/-!
Which run a status request names.  The run id is part of the address as it is, so that what it holds of
fragments, escapes and dots is read as such.
-/

namespace WorkflowRuns

theorem split_unique {mark : Char} {first second rest rest' : List Char} (free : mark ∉ first) (free' : mark ∉ second)
    (marked : ∀ c ∈ rest.head?, c = mark) (marked' : ∀ c ∈ rest'.head?, c = mark)
    (same : first ++ rest = second ++ rest') : first = second ∧ rest = rest' := by
  induction first generalizing second with
  | nil =>
      cases second with
      | nil => exact ⟨rfl, same⟩
      | cons d second =>
          rw [List.nil_append, List.cons_append] at same
          rw [same] at marked
          exact absurd (marked d rfl ▸ List.mem_cons_self) free'
  | cons c first ih =>
      cases second with
      | nil =>
          rw [List.nil_append, List.cons_append] at same
          rw [← same] at marked'
          exact absurd (marked' c rfl ▸ List.mem_cons_self) free
      | cons d second =>
          rw [List.cons_append, List.cons_append, List.cons.injEq] at same
          rw [List.mem_cons, not_or] at free free'
          obtain ⟨words, rests⟩ := ih free.2 free'.2 same.2
          exact ⟨by rw [same.1, words], rests⟩

theorem query_head (chars : List Char) : ∀ c ∈ (chars.dropWhile (· ≠ '?')).head?, c = '?' := by
  intro c head
  have marked := List.head?_dropWhile_not (fun c => decide (c ≠ '?')) chars
  rw [head] at marked
  simpa using marked

theorem Host.parts_ne_nil (mark : Char) (text : List Char) : parts mark text ≠ [] := by
  cases text with
  | nil => exact List.cons_ne_nil _ _
  | cons c text =>
      unfold parts
      split
      · exact List.cons_ne_nil _ _
      · split
        · exact List.cons_ne_nil _ _
        · exact List.cons_ne_nil _ _

theorem Host.intercalate_parts (mark : Char) (text : List Char) : List.intercalate [mark] (parts mark text) = text := by
  induction text with
  | nil => rfl
  | cons c text ih =>
      have some := parts_ne_nil mark text
      unfold parts
      split
      next same =>
        rw [List.intercalate_cons_of_ne_nil some, ih, same]
        rfl
      next =>
        cases found : parts mark text with
        | nil => exact absurd found some
        | cons first others =>
            rw [found] at ih
            cases others with
            | nil =>
                rw [List.intercalate_singleton] at ih
                simp only [List.intercalate_singleton, ih]
            | cons second others =>
                rw [List.intercalate_cons_cons] at ih ⊢
                rw [List.cons_append, List.cons_append, ih]

theorem Host.parts_append (mark : Char) (text rest : List Char) :
    parts mark (text ++ mark :: rest) = parts mark text ++ parts mark rest := by
  induction text with
  | nil => simp [parts]
  | cons c text ih =>
      rw [List.cons_append, parts, ih]
      conv => rhs; rw [parts]
      split
      next => rfl
      next =>
        obtain ⟨first, others, found⟩ := List.exists_cons_of_ne_nil (parts_ne_nil mark text)
        rw [found]
        rfl

theorem Host.mem_of_mem_parts {mark : Char} {text segment : List Char} (part : segment ∈ parts mark text) :
    segment ⊆ text := by
  induction text generalizing segment with
  | nil =>
      rw [List.mem_singleton.mp part]
      exact List.nil_subset _
  | cons c text ih =>
      unfold parts at part
      split at part
      next =>
        rcases List.mem_cons.mp part with rfl | later
        · exact List.nil_subset _
        · exact List.Subset.trans (ih later) (List.subset_cons_self c text)
      next =>
        obtain ⟨first, others, found⟩ := List.exists_cons_of_ne_nil (parts_ne_nil mark text)
        rw [found] at ih part
        rcases List.mem_cons.mp part with rfl | later
        · exact List.cons_subset_cons c (ih List.mem_cons_self)
        · exact List.Subset.trans (ih (List.mem_cons_of_mem _ later)) (List.subset_cons_self c text)

theorem Host.parts_flatMap {mark : Char} {encode : Char → List Char} (kept : encode mark = [mark])
    (foreign : ∀ c, c ≠ mark → mark ∉ encode c) (text : List Char) :
    parts mark (text.flatMap encode) = (parts mark text).map (List.flatMap encode) := by
  have before : ∀ {word : List Char}, mark ∉ word → ∀ rest,
      ∃ first others, parts mark rest = first :: others ∧ parts mark (word ++ rest) = (word ++ first) :: others := by
    intro word free rest
    induction word with
    | nil =>
        obtain ⟨first, others, found⟩ := List.exists_cons_of_ne_nil (parts_ne_nil mark rest)
        exact ⟨first, others, found, found⟩
    | cons c word ih =>
        rw [List.mem_cons, not_or] at free
        obtain ⟨first, others, found, whole⟩ := ih free.2
        exact ⟨first, others, found, by rw [List.cons_append, parts, if_neg (Ne.symm free.1), whole]; rfl⟩
  induction text with
  | nil => rfl
  | cons c text ih =>
      rw [List.flatMap_cons]
      by_cases same : c = mark
      · subst same
        rw [kept, List.singleton_append, parts, if_pos rfl, parts, if_pos rfl, ih]
        rfl
      · obtain ⟨first, others, found, whole⟩ := before (foreign c same) (text.flatMap encode)
        obtain ⟨word, words, split⟩ := List.exists_cons_of_ne_nil (parts_ne_nil mark text)
        rw [ih, split, List.map_cons, List.cons.injEq] at found
        rw [whole, parts, if_neg same, split, ← found.1, ← found.2]
        rfl

namespace Reference

/-- A part of a path that is left where it is. -/
def IsDotless (segment : List Char) : Prop := segment ≠ ['.'] ∧ segment ≠ ['.', '.']

instance : DecidablePred IsDotless := fun segment => inferInstanceAs (Decidable (segment ≠ ['.'] ∧ segment ≠ ['.', '.']))

theorem resolveSegments_dotless {segments : List (List Char)} (dotless : ∀ segment ∈ segments, IsDotless segment)
    (done : List (List Char)) : resolveSegments done segments = done ++ segments := by
  induction segments generalizing done with
  | nil => rw [resolveSegments, List.append_nil]
  | cons segment segments ih =>
      rw [List.forall_mem_cons] at dotless
      rw [resolveSegments, if_neg dotless.1.1, if_neg dotless.1.2, ih dotless.2, List.append_assoc]
      rfl

theorem resolveSegments_append (first second done : List (List Char)) :
    resolveSegments done (first ++ second) = resolveSegments (resolveSegments done first) second := by
  induction first generalizing done with
  | nil => rfl
  | cons segment first ih =>
      rw [List.cons_append, resolveSegments, resolveSegments]
      split_ifs <;> exact ih _

theorem intercalate_stem (mark : List Char) (done : List (List Char)) : ∃ stem, ∀ rest, rest ≠ [] →
    List.intercalate mark (done ++ rest) = stem ++ List.intercalate mark rest := by
  induction done with
  | nil => exact ⟨[], fun rest _ => rfl⟩
  | cons first done ih =>
      obtain ⟨stem, later⟩ := ih
      refine ⟨first ++ mark ++ stem, fun rest present => ?_⟩
      have more : done ++ rest ≠ [] := fun empty => present (List.append_eq_nil_iff.mp empty).2
      rw [List.cons_append, List.intercalate_cons_of_ne_nil more, later rest present, List.append_assoc _ stem]

/-- Where a path goes on without dots, what it goes on with is left as it is. -/
theorem resolveDots_append (path : List Char) : ∃ stem, ∀ rest, (∀ segment ∈ Host.parts '/' rest, IsDotless segment) →
    resolveDots (path ++ '/' :: rest) = stem ++ rest := by
  obtain ⟨stem, whole⟩ := intercalate_stem ['/'] (resolveSegments [] (Host.parts '/' path))
  refine ⟨stem, fun rest dotless => ?_⟩
  rw [resolveDots, Host.parts_append, resolveSegments_append, resolveSegments_dotless dotless,
    whole _ (Host.parts_ne_nil _ _), Host.intercalate_parts]

def queryText : List Char → List Char
  | [] => []
  | _ :: query => '?' :: query.flatMap (percentChar querySafe)

theorem queryText_head {query : List Char} : ∀ c ∈ (queryText query).head?, c = '?' := by
  cases query with
  | nil => nofun
  | cons mark query =>
      intro c head
      cases head
      rfl

theorem queryText_injective {first second : List Char} (marked : ∀ c ∈ first.head?, c = '?')
    (marked' : ∀ c ∈ second.head?, c = '?') (plain : ∀ c ∈ first, c ≠ '%') (plain' : ∀ c ∈ second, c ≠ '%')
    (same : queryText first = queryText second) : first = second := by
  cases first with
  | nil =>
      cases second with
      | nil => rfl
      | cons d second => cases same
  | cons c first =>
      cases second with
      | nil => cases same
      | cons d second =>
          rw [List.forall_mem_cons] at plain plain'
          rw [marked c rfl, marked' d rfl, percentEncode_injective querySafe plain.2 plain'.2 (List.cons.inj same).2]

theorem split_text (chars : List Char) {path : List Char}
    (begins : (chars.takeWhile (· ≠ '#')).takeWhile (· ≠ '?') = '/' :: path) :
    (split chars).text.toList = '/' :: path.flatMap (percentChar pathSafe) ++
      queryText ((chars.takeWhile (· ≠ '#')).dropWhile (· ≠ '?')) := by
  have slash : percentChar pathSafe '/' = ['/'] := by decide
  have encoded : (percentEncode pathSafe (String.ofList ('/' :: path))).toList =
      '/' :: path.flatMap (percentChar pathSafe) := by
    rw [percentEncode_toList, List.flatMap_cons, slash, List.singleton_append]
  have present : percentEncode pathSafe (String.ofList ('/' :: path)) ≠ "" := by
    intro empty
    rw [empty] at encoded
    cases encoded
  unfold text split
  simp only [begins, if_neg present, String.toList_append, encoded]
  apply congrArg ('/' :: path.flatMap (percentChar pathSafe) ++ ·)
  cases (chars.takeWhile (· ≠ '#')).dropWhile (· ≠ '?') with
  | nil => rfl
  | cons mark query =>
      simp only [String.toList_append, percentEncode_toList]
      rfl

end Reference

def Url.origin (url : Url) : String := url.scheme ++ ":" ++ (if url.authority = "" then "" else "//" ++ url.authority)

def Url.resolved (location : List Char) : List Char :=
  Reference.resolveDots (location.takeWhile (· ≠ '?')) ++ location.dropWhile (· ≠ '?')

theorem Url.resolved_append {path query : List Char} (free : '?' ∉ path) (marked : ∀ c ∈ query.head?, c = '?') :
    resolved (path ++ query) = Reference.resolveDots path ++ query := by
  have plain : ∀ c ∈ path, decide (c ≠ '?') = true := fun c member => by
    rw [decide_eq_true_eq]
    rintro rfl
    exact free member
  rw [resolved, List.takeWhile_append_of_pos plain, List.dropWhile_append_of_pos plain]
  cases query with
  | nil => simp
  | cons mark query =>
      rw [marked mark rfl]
      simp

theorem Url.located_text {url placed : Url} {location : String} (formed : url.located location = .ok placed) :
    placed.text = url.origin ++ String.ofList (resolved location.toList) := by
  have mark := query_head location.toList
  unfold located at formed
  unfold resolved
  generalize location.toList.takeWhile (· ≠ '?') = path at formed ⊢
  generalize location.toList.dropWhile (· ≠ '?') = query at mark formed ⊢
  apply String.toList_inj.mp
  rw [String.toList_append, String.toList_ofList]
  simp only at formed
  split at formed
  · cases formed
  · split at formed
    · cases formed
    · cases query with
      | nil =>
          cases formed
          change (url.origin ++ String.ofList (Reference.resolveDots path) ++ "").toList = _
          rw [String.append_empty, String.toList_append, String.toList_ofList, List.append_nil]
      | cons c query =>
          simp only at formed
          split at formed
          · cases formed
          · cases formed
            rw [mark c rfl]
            change (url.origin ++ String.ofList (Reference.resolveDots path) ++ ("?" ++ String.ofList query)).toList = _
            simp only [String.toList_append, String.toList_ofList, List.append_assoc]
            rfl

namespace Client

open Reference (IsDotless queryText)

/-- What a status request adds to the location of the service. -/
def below (runId : String) : List Char :=
  (Reference.split (statusPath runId).toList).text.toList.dropWhile (· = '/')

/-- Path and query of a status request. -/
def target (base : Url) (runId : String) : List Char := Url.resolved (base.location.toList ++ below runId)

/-- A run id that an address takes as it is: without fragments, escapes, or dots for a part of its path. -/
structure Direct (runId : String) : Prop where
  plain : ∀ c ∈ runId.toList, c ≠ '#' ∧ c ≠ '%'
  dotless : ∀ segment ∈ Host.parts '/' (runId.toList.takeWhile (· ≠ '?')), IsDotless segment

theorem direct_of_all {runId : String} (plain : runId.toList.all (fun c => decide (c ≠ '#' ∧ c ≠ '%')) = true)
    (dotless : (Host.parts '/' (runId.toList.takeWhile (· ≠ '?'))).all (fun part => decide (IsDotless part)) = true) :
    Direct runId := by
  constructor
  · simpa only [List.all_eq_true, decide_eq_true_eq] using plain
  · simpa only [List.all_eq_true, decide_eq_true_eq] using dotless

def before : List Char := '/' :: ("workflow".toList ++ ['/'])

theorem statusPath_toList (runId : String) : (statusPath runId).toList = before ++ runId.toList := by
  rw [statusPath, String.toList_append]
  rfl

theorem below_eq {runId : String} (plain : ∀ c ∈ runId.toList, c ≠ '#' ∧ c ≠ '%') :
    below runId = before.tail ++ (runId.toList.takeWhile (· ≠ '?')).flatMap (percentChar pathSafe) ++
      queryText (runId.toList.dropWhile (· ≠ '?')) := by
  have unmarked : ∀ c ∈ before, decide (c ≠ '?') = true := List.all_eq_true.mp (by decide)
  have sent : (statusPath runId).toList.takeWhile (· ≠ '#') = before ++ runId.toList := by
    have prefixed : ∀ c ∈ before, decide (c ≠ '#') = true := List.all_eq_true.mp (by decide)
    have unmarked : runId.toList.takeWhile (· ≠ '#') = runId.toList :=
      List.takeWhile_eq_self_iff.mpr fun c member => decide_eq_true (plain c member).1
    rw [statusPath_toList, List.takeWhile_append_of_pos prefixed, unmarked]
  have begins : ((statusPath runId).toList.takeWhile (· ≠ '#')).takeWhile (· ≠ '?') =
      '/' :: (before.tail ++ runId.toList.takeWhile (· ≠ '?')) := by
    rw [sent, List.takeWhile_append_of_pos unmarked]
    rfl
  have kept : before.tail.flatMap (percentChar pathSafe) = before.tail := by decide
  rw [below, Reference.split_text _ begins, sent, List.dropWhile_append_of_pos unmarked, List.flatMap_append, kept]
  rfl

theorem dotless_encoded {path : List Char} (plain : ∀ c ∈ path, c ≠ '%')
    (dotless : ∀ segment ∈ Host.parts '/' path, IsDotless segment) :
    ∀ segment ∈ Host.parts '/' (path.flatMap (percentChar pathSafe)), IsDotless segment := by
  have slash : ∀ c, c ≠ '/' → '/' ∉ percentChar pathSafe c := by
    intro c other member
    unfold percentChar at member
    split at member
    next => exact other (List.mem_singleton.mp member).symm
    next =>
      obtain ⟨b, _, inside⟩ := List.mem_flatMap.mp member
      rcases mem_percentByte inside with percent | digit
      · cases percent
      · exact absurd digit (by decide)
  have dots : ∀ {segment dots : List Char}, (∀ c ∈ segment, c ≠ '%') → (∀ c ∈ dots, c ≠ '%') →
      dots.flatMap (percentChar pathSafe) = dots → segment ≠ dots → segment.flatMap (percentChar pathSafe) ≠ dots :=
    fun plain free kept other same => other (percentEncode_injective pathSafe plain free (same.trans kept.symm))
  rw [Host.parts_flatMap (by decide) slash]
  intro segment member
  obtain ⟨original, part, rfl⟩ := List.mem_map.mp member
  have free : ∀ c ∈ original, c ≠ '%' := fun c inside => plain c (Host.mem_of_mem_parts part inside)
  obtain ⟨one, two⟩ := dotless original part
  exact ⟨dots free (by simp) (by decide) one, dots free (by simp) (by decide) two⟩

/-- The path and the query of a run id stand behind what the address of the service makes of the rest. -/
theorem target_direct (base : Url) : ∃ stem, ∀ runId, Direct runId → target base runId =
    stem ++ (runId.toList.takeWhile (· ≠ '?')).flatMap (percentChar pathSafe) ++
      queryText (runId.toList.dropWhile (· ≠ '?')) := by
  have free : ∀ path : List Char, '?' ∉ path.flatMap (percentChar pathSafe) := by
    intro path member
    obtain ⟨c, _, inside⟩ := List.mem_flatMap.mp member
    exact not_mem_percentChar (by decide) (by decide) c inside
  simp only [target]
  generalize base.location.toList = location
  by_cases queried : '?' ∈ location
  · -- A query of the service takes up all that follows it.
    obtain ⟨path, query, rfl, unmarked⟩ := List.eq_append_cons_of_mem queried
    refine ⟨Reference.resolveDots path ++ '?' :: query ++ before.tail, fun runId direct => ?_⟩
    have marked : ∀ c ∈ ('?' :: query ++ below runId).head?, c = '?' := by
      rintro c ⟨⟩
      rfl
    rw [List.append_assoc, Url.resolved_append unmarked marked, below_eq direct.plain]
    simp only [List.append_assoc]
  · obtain ⟨stem, resolved⟩ := Reference.resolveDots_append (location ++ "workflow".toList)
    refine ⟨stem, fun runId direct => ?_⟩
    have whole : location ++ below runId =
        (location ++ "workflow".toList ++ '/' :: (runId.toList.takeWhile (· ≠ '?')).flatMap (percentChar pathSafe)) ++
          queryText (runId.toList.dropWhile (· ≠ '?')) := by
      rw [below_eq direct.plain]
      simp [before]
    have unmarked : '?' ∉ location ++ "workflow".toList ++
        '/' :: (runId.toList.takeWhile (· ≠ '?')).flatMap (percentChar pathSafe) := by
      rw [List.mem_append, List.mem_append, List.mem_cons]
      rintro ((inside | inside) | slash | inside)
      · exact queried inside
      · exact absurd inside (by decide)
      · cases slash
      · exact free _ inside
    have plain : ∀ c ∈ runId.toList.takeWhile (· ≠ '?'), c ≠ '%' :=
      fun c member => (direct.plain c (List.takeWhile_subset _ member)).2
    rw [whole, Url.resolved_append unmarked Reference.queryText_head,
      resolved _ (dotless_encoded plain direct.dotless)]

theorem target_injective {base : Url} {first second : String} (direct : Direct first) (direct' : Direct second)
    (same : target base first = target base second) : first = second := by
  obtain ⟨stem, whole⟩ := target_direct base
  rw [whole first direct, whole second direct', List.append_assoc, List.append_assoc] at same
  have free : ∀ path : List Char, '?' ∉ path.flatMap (percentChar pathSafe) := by
    intro path member
    obtain ⟨c, _, inside⟩ := List.mem_flatMap.mp member
    exact not_mem_percentChar (by decide) (by decide) c inside
  have plain : ∀ {runId}, Direct runId → ∀ c ∈ runId.toList, c ≠ '%' := fun direct c member => (direct.plain c member).2
  obtain ⟨paths, queries⟩ := split_unique (free _) (free _) Reference.queryText_head Reference.queryText_head
    (List.append_cancel_left same)
  have path := percentEncode_injective pathSafe
    (fun c member => plain direct c (List.takeWhile_subset _ member))
    (fun c member => plain direct' c (List.takeWhile_subset _ member)) paths
  have query := Reference.queryText_injective (query_head _) (query_head _)
    (fun c member => plain direct c ((List.dropWhile_suffix _).subset member))
    (fun c member => plain direct' c ((List.dropWhile_suffix _).subset member)) queries
  apply String.toList_inj.mp
  calc first.toList = first.toList.takeWhile (· ≠ '?') ++ first.toList.dropWhile (· ≠ '?') :=
        List.takeWhile_append_dropWhile.symm
    _ = second.toList.takeWhile (· ≠ '?') ++ second.toList.dropWhile (· ≠ '?') := by rw [path, query]
    _ = second.toList := List.takeWhile_append_dropWhile

theorem url_text {base address : Url} {path : String} (formed : url base path = .ok address) :
    address.text = base.origin ++ String.ofList (Url.resolved (base.location.toList ++
      (Reference.split path.toList).text.toList.dropWhile (· = '/'))) := by
  unfold url Reference.read at formed
  rcases Reference.readable_spec path with ⟨_, readable⟩ | ⟨_, fault, unreadable⟩
  · rw [readable] at formed
    change (base.extend (Reference.split path.toList)).mapError urlFailure = .ok address at formed
    unfold Url.extend at formed
    cases placed : base.located (base.location ++
      String.ofList ((Reference.split path.toList).text.toList.dropWhile (· = '/'))) with
    | ok found =>
        rw [placed] at formed
        cases formed
        rw [Url.located_text placed, String.toList_append, String.toList_ofList]
    | error fault =>
        rw [placed] at formed
        cases formed
  · rw [unreadable] at formed
    cases formed

end Client

namespace Service

theorem sent_asked {s : Service} {runId : String} (asks : s.Asks runId) : (s.fetch runId).1.sent =
    some (.request ⟨"GET", s.base.origin ++ String.ofList (Client.target s.base runId), none⟩) := by
  rcases Client.url_spec s.base (Client.statusPath runId) with ⟨_, address, formed⟩ | ⟨unreachable, _⟩
  · have named : ¬ Text.isAllBlank runId = true := by
      rw [asks.named]
      nofun
    rw [Client.target, Client.below, ← Client.url_text formed, fetch, if_neg named, formed]
  · exact absurd asks.reachable unreachable

theorem sent_url {s : Service} {runId : String} {request : Request}
    (sent : (s.fetch runId).1.sent = some (.request request)) :
    request.url = s.base.origin ++ String.ofList (Client.target s.base runId) := by
  have asks : s.Asks runId := by
    rw [← (fetch_spec s runId).sent_iff, sent]
    rfl
  rw [sent_asked asks] at sent
  cases sent
  rfl

/-- Two status requests of one service go to the same address where the run ids come to the same path and
query, which those that an address takes as they are do only if they are the same. -/
theorem requests_named {s t : Service} (same : s.base = t.base) {first second : String} {request request' : Request}
    (sent : (s.fetch first).1.sent = some (.request request))
    (sent' : (t.fetch second).1.sent = some (.request request')) :
    (request.url = request'.url ↔ Client.target s.base first = Client.target s.base second) ∧
      (Client.Direct first → Client.Direct second → (request.url = request'.url ↔ first = second)) := by
  have targets : request.url = request'.url ↔ Client.target s.base first = Client.target s.base second := by
    rw [sent_url sent, sent_url sent', same, ← String.toList_inj]
    simp only [String.toList_append, String.toList_ofList]
    exact ⟨List.append_cancel_left, fun targets => by rw [targets]⟩
  refine ⟨targets, fun direct direct' => ?_⟩
  rw [targets]
  exact ⟨Client.target_injective direct direct', fun ids => by rw [ids]⟩

theorem asks_mute (runId : String) (named : Text.isAllBlank runId = false)
    (short : (Client.statusPath runId).length ≤ Reference.lengthLimit)
    (printable : (Client.statusPath runId).toList.all (fun c => !Reference.isControl c) = true)
    (fits : mute.base.Fits (mute.base.location ++ String.ofList (Client.below runId))) : mute.Asks runId :=
  ⟨named, Reference.readable_of_all short printable, fits⟩

theorem requests_named_slashes : ∃ request request',
    (mute.fetch "run/1?x").1.sent = some (.request request) ∧
      (mute.fetch "run 1/é").1.sent = some (.request request') ∧ request.url ≠ request'.url := by
  have sent := sent_asked (asks_mute "run/1?x" (by decide) (by decide +kernel) (by decide +kernel)
    ⟨by decide +kernel, by decide +kernel, by decide +kernel⟩)
  have sent' := sent_asked (asks_mute "run 1/é" (by decide) (by decide +kernel) (by decide +kernel)
    ⟨by decide +kernel, by decide +kernel, by decide +kernel⟩)
  have direct : Client.Direct "run/1?x" := Client.direct_of_all (by decide) (by decide)
  have direct' : Client.Direct "run 1/é" := Client.direct_of_all (by decide) (by decide)
  refine ⟨_, _, sent, sent', ?_⟩
  rw [Ne, (requests_named rfl sent sent').2 direct direct']
  decide

/-- What follows a hash is not sent, and a dot is no part of a path. -/
theorem request_ambiguous : Client.base .standard = .ok mute.base ∧ ∃ request,
    (mute.fetch "run-1").1.sent = some (.request request) ∧
      (mute.fetch "run-1#x").1.sent = some (.request request) ∧
      (mute.fetch "./run-1").1.sent = some (.request request) := by
  have fits : mute.base.Fits (mute.base.location ++ String.ofList (Client.below "run-1")) :=
    ⟨by decide +kernel, by decide +kernel, by decide +kernel⟩
  have cut : Client.below "run-1#x" = Client.below "run-1" := by decide +kernel
  have hash : Client.target mute.base "run-1#x" = Client.target mute.base "run-1" := by rw [Client.target, cut]; rfl
  have dot : Client.target mute.base "./run-1" = Client.target mute.base "run-1" := by decide +kernel
  have plain := sent_asked (asks_mute _ (by decide) (by decide +kernel) (by decide +kernel) fits)
  rw [← cut] at fits
  have hashed := sent_asked (asks_mute _ (by decide) (by decide +kernel) (by decide +kernel) fits)
  have dotted := sent_asked (asks_mute "./run-1" (by decide) (by decide +kernel) (by decide +kernel)
    ⟨by decide +kernel, by decide +kernel, by decide +kernel⟩)
  rw [hash] at hashed
  rw [dot] at dotted
  exact ⟨rfl, _, plain, hashed, dotted⟩

end Service

end WorkflowRuns
