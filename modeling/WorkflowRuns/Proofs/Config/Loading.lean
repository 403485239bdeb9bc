import WorkflowRuns.Config.File
import WorkflowRuns.Proofs.Config.Backoff

/-!
Settings as they are loaded.  Whatever a configuration file says, its numbers are numbers of the format,
so that the laws of delays hold of all settings that load.
-/

namespace WorkflowRuns

namespace Binary64

theorem zero_isDouble (negative : Bool) : (finite negative 0 leastExponent).IsDouble :=
  ⟨by decide, by decide, by decide⟩

theorem neg_isDouble {x : Binary64} (double : x.IsDouble) : x.neg.IsDouble := by
  cases x with
  | finite negative significand exponent => exact double
  | infinite negative => trivial
  | nan => trivial

theorem round_isDouble (q : Rat) : (round q).IsDouble :=
  roundNat_isDouble _ _ q.den_pos

theorem add_isDouble (x y : Binary64) : (x.add y).IsDouble := by
  unfold add
  split
  next => trivial
  next => trivial
  next => split <;> trivial
  next => trivial
  next => trivial
  next =>
    split
    next a b _ _ =>
      split
      · exact zero_isDouble _
      · exact round_isDouble _
    next => trivial

end Binary64

/-- All numbers in a value are numbers of the format; nobody looks into one of a kind that JSON lacks. -/
inductive Value.Doubles : Value → Prop
  | null : Doubles .null
  | bool (b : Bool) : Doubles (.bool b)
  | int (n : Int) : Doubles (.int n)
  | float {x : Binary64} (double : x.IsDouble) : Doubles (.float x)
  | text (s : String) : Doubles (.text s)
  | list {items : List Value} (each : ∀ item ∈ items, Doubles item) : Doubles (.list items)
  | record {fields : Fields} (each : ∀ entry ∈ fields, Doubles entry.2) : Doubles (.record fields)
  | foreign (kind : String) (content : List Value) : Doubles (.foreign kind content)

theorem Value.Doubles.isDouble {value : Value} (doubles : value.Doubles) : value.IsDouble := by
  cases doubles with
  | float double => exact double
  | _ => trivial

def Fields.Doubles (fields : Fields) : Prop := ∀ entry ∈ fields, entry.2.Doubles

namespace Fields

theorem doubles_nil : Doubles [] := nofun

theorem Doubles.append {first second : Fields} (left : first.Doubles) (right : second.Doubles) :
    Doubles (first ++ second) := by
  intro entry member
  rcases List.mem_append.mp member with before | later
  · exact left entry before
  · exact right entry later

theorem Doubles.cons {fields : Fields} {key : Key} {value : Value} (first : value.Doubles)
    (rest : fields.Doubles) : Doubles ((key, value) :: fields) := by
  intro entry member
  rcases List.mem_cons.mp member with rfl | later
  · exact first
  · exact rest entry later

theorem doubles_single {key : Key} {value : Value} (doubles : value.Doubles) : Doubles [(key, value)] :=
  Doubles.cons doubles doubles_nil

theorem Doubles.map {fields : Fields} (doubles : fields.Doubles) {value : Value} (added : value.Doubles)
    {change : Key × Value → Key × Value} (either : ∀ entry, (change entry).2 = entry.2 ∨ (change entry).2 = value) :
    Doubles (fields.map change) := by
  intro entry member
  obtain ⟨before, inside, rfl⟩ := List.mem_map.mp member
  rcases either before with kept | taken
  · rw [kept]
    exact doubles before inside
  · rw [taken]
    exact added

theorem Doubles.put {fields : Fields} (doubles : fields.Doubles) (key : Key) {value : Value}
    (added : value.Doubles) : Fields.Doubles (Fields.put fields key value) := by
  unfold Fields.put
  split
  · refine doubles.map added ?_
    intro entry
    split
    · exact Or.inr rfl
    · exact Or.inl rfl
  · exact doubles.append (doubles_single added)

theorem Doubles.get {fields : Fields} (doubles : fields.Doubles) (name : String) :
    (fields.get name).Doubles := by
  unfold Fields.get
  cases found : fields.get? name with
  | none => exact .null
  | some value => exact doubles _ (Schema.member_of_get? found)

end Fields

def Yields {ε α : Type} (holds : α → Prop) (made : Except ε α) : Prop := ∀ a, made = .ok a → holds a

section Yields

variable {ε ε' α β : Type} {holds : α → Prop} {later : β → Prop}

theorem yields_ok {a : α} (given : holds a) : Yields holds (.ok a : Except ε α) := by
  rintro _ ⟨⟩
  exact given

theorem yields_error (e : ε) : Yields holds (.error e) := nofun

theorem yields_any (made : Except ε α) : Yields (fun _ => True) made := fun _ _ => trivial

theorem Yields.bind {made : Except ε α} {next : α → Except ε β} (first : Yields holds made)
    (then' : ∀ a, holds a → Yields later (next a)) : Yields later (made >>= next) := by
  cases made with
  | error e => exact yields_error e
  | ok a => exact then' a (first a rfl)

theorem Yields.map {made : Except ε α} {change : α → β} (first : Yields holds made)
    (kept : ∀ a, holds a → later (change a)) : Yields later (made.map change) := by
  cases made with
  | error e => exact yields_error e
  | ok a => exact yields_ok (kept a (first a rfl))

theorem Yields.mapError {made : Except ε α} (first : Yields holds made) (change : ε → ε') :
    Yields holds (made.mapError change) := by
  cases made with
  | error e => exact yields_error (change e)
  | ok a => exact yields_ok (first a rfl)

end Yields

namespace Yaml

theorem decimalValue_isDouble (text : List Char) : Yields Binary64.IsDouble (decimalValue text) := by
  unfold decimalValue
  split
  next x read => exact yields_ok (Schema.plainNumber_isDouble read)
  next => exact yields_error _

theorem sexagesimalFloat_isDouble (places : List Binary64) : (sexagesimalFloat places).IsDouble := by
  unfold sexagesimalFloat
  have start : (Binary64.zero, 1).1.IsDouble := Binary64.zero_isDouble false
  generalize (Binary64.zero, 1) = sum at start ⊢
  induction places.reverse generalizing sum with
  | nil => exact start
  | cons place rest ih => exact ih _ (Binary64.add_isDouble _ _)

theorem floatValue_doubles (text : String) : Yields Value.Doubles (floatValue text) := by
  unfold floatValue
  split
  next => exact yields_error _
  next sign rest _ =>
    have ends : ∀ x : Binary64, x.IsDouble →
        Yields Value.Doubles (pure (.float (if sign = '-' then x.neg else x)) : Except Error Value) := by
      intro x double
      refine yields_ok (.float ?_)
      split
      · exact Binary64.neg_isDouble double
      · exact double
    simp only
    split
    · exact ends _ trivial
    · split
      · exact ends _ trivial
      · split
        · refine Yields.bind ?_ ends
          exact (yields_any _).map fun places _ => sexagesimalFloat_isDouble places
        · exact (decimalValue_isDouble _).bind ends

theorem boolValue_doubles (text : String) : Yields Value.Doubles (boolValue text) := by
  unfold boolValue
  simp only
  split_ifs
  · exact yields_ok (.bool true)
  · exact yields_ok (.bool false)
  · exact yields_error _

theorem intValue_doubles (text : String) : Yields Value.Doubles (intValue text) := by
  unfold intValue
  split
  next => exact yields_error _
  next =>
    simp only
    split
    · exact yields_error _
    · exact (yields_any _).bind fun n _ => yields_ok (.int _)

theorem timestampValue_doubles (text : String) : Yields Value.Doubles (timestampValue text) := by
  unfold timestampValue
  split
  next => exact yields_error _
  next =>
    simp only
    split
    all_goals
      split
      · exact yields_error _
      · exact yields_ok (.foreign _ _)

theorem binaryValue_doubles (text : String) : Yields Value.Doubles (binaryValue text) := by
  unfold binaryValue
  split
  · split
    · exact yields_ok (.foreign _ _)
    · exact yields_error _
  · exact yields_error _

theorem scalarValue_doubles (tag text : String) : Yields Value.Doubles (scalarValue tag text) := by
  unfold scalarValue
  split_ifs
  · exact yields_ok (.text text)
  · exact yields_ok .null
  · exact boolValue_doubles text
  · exact intValue_doubles text
  · exact floatValue_doubles text
  · exact timestampValue_doubles text
  · exact binaryValue_doubles text
  · exact yields_error _

theorem putEntry_doubles {fields : Fields} {entry : Key × Value} (doubles : fields.Doubles)
    (added : entry.2.Doubles) : Fields.Doubles (putEntry fields entry) := by
  unfold putEntry
  split
  · refine doubles.map added ?_
    intro old
    split
    · exact Or.inr rfl
    · exact Or.inl rfl
  · exact doubles.append (Fields.doubles_single added)

theorem collect_doubles {entries : Fields} (doubles : entries.Doubles) : Fields.Doubles (collect entries) := by
  have each : ∀ (entries fields : Fields), entries.Doubles → fields.Doubles →
      Fields.Doubles (entries.foldl putEntry fields) := by
    intro entries
    induction entries with
    | nil => exact fun _ _ done => done
    | cons entry rest ih =>
        intro fields whole done
        apply ih
        · exact fun other member => whole other (List.mem_cons_of_mem _ member)
        · exact putEntry_doubles done (whole entry List.mem_cons_self)
  exact each entries [] doubles Fields.doubles_nil

theorem joined_doubles {entries : Except Error (Fields × Fields)}
    (doubles : Yields (fun both => both.1.Doubles ∧ both.2.Doubles) entries) :
    Yields Fields.Doubles (joined entries) :=
  doubles.map fun _ both => collect_doubles (both.1.append both.2)

theorem constructPairs_doubles (items : List Node) :
    Yields (fun values => ∀ value ∈ values, value.Doubles) (constructPairs items) := by
  induction items with
  | nil =>
      rw [constructPairs]
      exact yields_ok nofun
  | cons item rest ih =>
      unfold constructPairs
      split
      next => exact yields_ok nofun
      next same =>
        cases same
        refine (yields_any _).bind fun _ _ => (yields_any _).bind fun _ _ => ih.bind fun _ each => yields_ok ?_
        exact List.forall_mem_cons.mpr ⟨.foreign _ _, each⟩
      next => exact yields_error _

mutual
theorem construct_doubles : ∀ node, Yields Value.Doubles (construct node)
  | .scalar tag text => by
      rw [construct]
      exact scalarValue_doubles tag text
  | .sequence tag items => by
      rw [construct]
      split_ifs
      · exact (constructItems_doubles items).bind fun _ each => yields_ok (.list each)
      · exact (constructPairs_doubles items).bind fun _ each => yields_ok (.list each)
      · exact yields_error _
  | .mapping tag entries => by
      rw [construct]
      refine (joined_doubles (constructEntries_doubles entries)).bind fun fields doubles => ?_
      split_ifs
      · exact yields_ok (.record doubles)
      · exact yields_ok (.foreign _ _)
      · exact yields_error _
  | .enclosing kind => by
      rw [construct]
      exact yields_ok (.foreign _ _)

theorem constructItems_doubles : ∀ items, Yields (fun values => ∀ value ∈ values, value.Doubles) (constructItems items)
  | [] => by
      rw [constructItems]
      exact yields_ok nofun
  | item :: rest => by
      rw [constructItems]
      refine (construct_doubles item).bind fun first given => ?_
      refine (constructItems_doubles rest).bind fun others each => yields_ok ?_
      exact List.forall_mem_cons.mpr ⟨given, each⟩

theorem constructEntries_doubles : ∀ entries,
    Yields (fun both => Fields.Doubles both.1 ∧ Fields.Doubles both.2) (constructEntries entries)
  | [] => by
      rw [constructEntries]
      exact yields_ok ⟨Fields.doubles_nil, Fields.doubles_nil⟩
  | (key, value) :: rest => by
      have own : ∀ name : Key, Yields (fun both => Fields.Doubles both.1 ∧ Fields.Doubles both.2) (do
          let value ← construct value
          let (merged, own) ← constructEntries rest
          return (merged, (name, value) :: own)) := by
        intro name
        refine (construct_doubles value).bind fun given doubles => ?_
        refine (constructEntries_doubles rest).bind fun both each => yields_ok ?_
        exact ⟨each.1, each.2.cons doubles⟩
      rw [constructEntries]
      split
      · refine (mergedEntries_doubles value).bind fun merged doubles => ?_
        refine (constructEntries_doubles rest).bind fun both each => yields_ok ?_
        exact ⟨doubles.append each.1, each.2⟩
      · simp only
        split
        · exact own (.name "=")
        · exact (yields_any _).bind fun name _ => own name

theorem mergedEntries_doubles : ∀ node, Yields Fields.Doubles (mergedEntries node)
  | .mapping _ entries => by
      rw [mergedEntries]
      exact joined_doubles (constructEntries_doubles entries)
  | .sequence _ items => by
      rw [mergedEntries]
      exact mergedItems_doubles items
  | .scalar _ _ => yields_error Error.malformed
  | .enclosing _ => yields_error Error.malformed

theorem mergedItems_doubles : ∀ items, Yields Fields.Doubles (mergedItems items)
  | [] => by
      rw [mergedItems]
      exact yields_ok Fields.doubles_nil
  | .mapping _ entries :: rest => by
      rw [mergedItems]
      refine (joined_doubles (constructEntries_doubles entries)).bind fun first doubles => ?_
      refine (mergedItems_doubles rest).bind fun others each => yields_ok ?_
      exact each.append doubles
  | .scalar _ _ :: _ => yields_error Error.malformed
  | .sequence _ _ :: _ => yields_error Error.malformed
  | .enclosing _ :: _ => yields_error Error.malformed
end

theorem read_doubles (text : String) : Yields Value.Doubles (Yaml.read text) := by
  unfold Yaml.read
  refine (yields_any _).bind fun node _ => ?_
  cases node with
  | none => exact yields_ok .null
  | some node => exact construct_doubles node

end Yaml

namespace Config

theorem clientSection_doubles (path text : String) : Yields Fields.Doubles (clientSection path text) := by
  unfold clientSection
  have read := (Yaml.read_doubles (String.ofList (Text.plainLines text.toList))).mapError ConfigFault.yaml
  refine read.bind fun value doubles => ?_
  split
  · exact yields_ok Fields.doubles_nil
  · cases doubles with
    | record each =>
        have client := Fields.Doubles.get each "client"
        simp only
        split
        · exact yields_ok Fields.doubles_nil
        · split
          next settings found =>
            rw [found] at client
            cases client with
            | record each => exact yields_ok each
          next => exact yields_error _
    | _ => exact yields_error _

theorem overrides_doubles (environment : Environment) : Fields.Doubles (overrides environment) := by
  unfold overrides
  refine ((Fields.Doubles.append ?_ ?_).append ?_).append ?_
  all_goals
    simp only
    split
    next word _ =>
      split
      · exact Fields.doubles_nil
      · exact Fields.doubles_single (by constructor)
    next => exact Fields.doubles_nil

theorem fold_doubles (overrides settings : Fields) (added : overrides.Doubles) (doubles : settings.Doubles) :
    Fields.Doubles (overrides.foldl (fun fields (key, value) => Fields.put fields key value) settings) := by
  induction overrides generalizing settings with
  | nil => exact doubles
  | cons entry rest ih =>
      apply ih
      · exact fun other member => added other (List.mem_cons_of_mem _ member)
      · exact doubles.put _ (added entry List.mem_cons_self)

theorem accepted_of_toExcept {fields : Fields} {c : Config}
    (accepted : (ofFields fields).toExcept.mapError ConfigFault.fields = .ok c) : ofFields fields = .accepted c := by
  cases read : ofFields fields with
  | accepted d =>
      rw [read] at accepted
      cases accepted
      rfl
  | refused faults =>
      rw [read] at accepted
      cases accepted

theorem accepted_of_load (project : String) (file : Option String) (environment : Environment) :
    Yields (fun c => ∃ fields : Fields, ofFields fields = .accepted c ∧ fields.Doubles)
      (load project file environment) := by
  unfold load
  simp only
  split
  on_goal 1 => refine (clientSection_doubles _ _).bind ?_
  on_goal 2 => refine Yields.bind (yields_ok Fields.doubles_nil) ?_
  all_goals
    intro settings doubles
    split
    · exact yields_error _
    · exact fun c accepted =>
        ⟨_, accepted_of_toExcept accepted, fold_doubles _ settings (overrides_doubles environment) doubles⟩

/-- Wherever settings come from, a delay that can be computed is positive. -/
theorem retryDelay_loaded {project : String} {file : Option String} {environment : Environment} {c : Config}
    (loaded : load project file environment = .ok c) {failures : Int} {delay : Binary64}
    (computed : c.retryDelay? failures = some delay) : delay.le .zero = false := by
  obtain ⟨fields, accepted, doubles⟩ := accepted_of_load project file environment c loaded
  have double := pollInterval_isDouble accepted fun key value member => (doubles (key, value) member).isDouble
  exact retryDelay_positive (valid_of_accepted accepted) double computed

end Config

end WorkflowRuns
