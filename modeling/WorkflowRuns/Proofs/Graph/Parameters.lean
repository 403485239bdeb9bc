import WorkflowRuns.Proofs.Graph.Payload

/-!
The parameters of an accepted node.  Whatever they are given as, they are those of the node's type, and each key
that the type does not declare is kept with its value.
-/

namespace WorkflowRuns

namespace Params

open Schema

def Undeclared (kind : NodeKind) (key : Key) : Prop := ∀ name ∈ declared kind, key ≠ .name name

instance (kind : NodeKind) (key : Key) : Decidable (Undeclared kind key) :=
  inferInstanceAs (Decidable (∀ name ∈ declared kind, key ≠ .name name))

/-- Parameters as a mapping gives them: of the kind, with all other keys as they were. -/
structure Carries (kind : NodeKind) (mapping : Fields) (params : Params) : Prop where
  own : params.kind = kind
  extras : params.extras = mapping.filter fun (key, _) => Undeclared kind key
  kept : ∀ key, Undeclared kind key → params.extras.lookup key = mapping.lookup key
  duration : ∀ n extras, params = .wait n extras → 0 ≤ n ∧ Lasts (Fields.get mapping "duration") n

theorem lookup_filter {fields : Fields} {key : Key} (chosen : Key → Bool) (holds : chosen key = true) :
    (fields.filter fun entry => chosen entry.1).lookup key = fields.lookup key := by
  induction fields with
  | nil => rfl
  | cons entry rest ih =>
      obtain ⟨first, value⟩ := entry
      rw [List.filter_cons]
      by_cases same : key = first
      · subst same
        rw [if_pos holds, List.lookup_cons_self, List.lookup_cons_self]
      · have other : (key == first) = false := beq_eq_false_iff_ne.mpr same
        have skipped : ((first, value) :: rest).lookup key = rest.lookup key := by rw [List.lookup_cons, other]
        rw [skipped, ← ih]
        split
        next => rw [List.lookup_cons, other]
        next => rfl

theorem extras_carried (kind : NodeKind) {fields extras : Fields}
    (accepted : undeclared (declared kind) fields = .accepted extras) :
    extras = fields.filter (fun (key, _) => Undeclared kind key) ∧
      ∀ key, Undeclared kind key → extras.lookup key = fields.lookup key := by
  have same : extras = fields.filter (fun entry => decide (Undeclared kind entry.1)) := by
    rw [undeclared_accepted accepted]
    congr 1
    funext entry
    rw [Bool.eq_iff_iff, decide_eq_true_iff]
    simp [Undeclared]
  refine ⟨same, fun key other => ?_⟩
  rw [same]
  exact lookup_filter (fun key => decide (Undeclared kind key)) (by simpa using other)

theorem accepted_of_field {α : Type} {fields : Fields} {name : String} {absent a : α} {check : Value → Checked α}
    (null : check .null = .accepted absent) (accepted : defaulted fields name name absent check = .accepted a) :
    check (Fields.get fields name) = .accepted a := by
  cases held : Fields.get? fields name with
  | none =>
      rw [defaulted_of_absent held] at accepted
      rw [Fields.get, held, ← Checked.accepted.inj accepted]
      exact null
  | some value =>
      simp only [defaulted, find?, held] at accepted
      rw [Fields.get, held]
      exact accepted_of_under accepted

theorem check_carries {kind : NodeKind} {fields : Fields} {params : Params}
    (accepted : check kind fields = .accepted params) : Carries kind fields params := by
  cases kind with
  | manualStart =>
      obtain ⟨_, extras, first, rest, rfl⟩ := accepted_of_seq accepted
      obtain ⟨label, _, rfl⟩ := accepted_of_map first
      obtain ⟨same, kept⟩ := extras_carried .manualStart rest
      exact ⟨rfl, same, kept, nofun⟩
  | httpRequest =>
      obtain ⟨_, extras, first, rest, rfl⟩ := accepted_of_seq accepted
      obtain ⟨_, url, second, _, rfl⟩ := accepted_of_seq first
      obtain ⟨method, _, rfl⟩ := accepted_of_map second
      obtain ⟨same, kept⟩ := extras_carried .httpRequest rest
      exact ⟨rfl, same, kept, nofun⟩
  | wait =>
      obtain ⟨_, extras, first, rest, rfl⟩ := accepted_of_seq accepted
      obtain ⟨n, read, rfl⟩ := accepted_of_map first
      obtain ⟨same, kept⟩ := extras_carried .wait rest
      refine ⟨rfl, same, kept, ?_⟩
      rintro _ _ ⟨⟩
      exact duration_accepted_iff.mp (accepted_of_field rfl read)

end Params

/-- The mapping that is checked for a node of some kind: nothing stands for an empty one, and a record of another
kind is written out with its defaults. -/
inductive GivenParams.Spells (kind : NodeKind) : GivenParams → Fields → Prop
  | absent : Spells kind .absent []
  | null : Spells kind (.value .null) []
  | mapping (fields : Fields) : Spells kind (.value (.record fields)) fields
  | foreign {params : Params} (other : params.kind ≠ kind) : Spells kind (.checked params) params.dump

namespace Node

open Schema Params

/-- A node that came out of fields and parameters: it is of the type that the fields name, and carries the
parameters of that type. -/
def Carried (fields : Fields) (given : GivenParams) (node : Node) : Prop :=
  ∃ kind mapping, Fields.get fields "type" = .text kind.word ∧ given.Spells kind mapping ∧
    Carries kind mapping node.params

theorem kindOf?_iff {fields : Fields} {kind : NodeKind} :
    kindOf? fields = some kind ↔ Fields.get fields "type" = .text kind.word := by
  constructor
  · intro known
    unfold kindOf? at known
    split at known
    next word held =>
      obtain ⟨before, after, whole, _⟩ := List.lookup_eq_some_iff.mp known
      have listed : (word, kind) ∈ kinds := by simp [whole]
      have named : ∀ entry ∈ kinds, entry.1 = entry.2.word := by decide
      exact held.trans (congrArg Value.text (named _ listed))
    next => cases known
  · intro held
    rw [kindOf?, held]
    exact lookup_kind kind

theorem assembled {fields : Fields} {given : Checked Params} {node : Node}
    (accepted : assemble fields given = .accepted node) :
    (∃ kind, kindOf? fields = some kind) ∧ given = .accepted node.params := by
  obtain ⟨_, ⟨kind, type⟩, same⟩ := accepted_of_assemble accepted
  obtain ⟨value, held, chosen⟩ := accepted_of_required type
  obtain ⟨word, rfl, found⟩ := accepted_of_choice chosen
  refine ⟨⟨kind, ?_⟩, same⟩
  rw [kindOf?, Fields.get, held]
  exact found

theorem checkAny_accepted {value : Value} {params : Params} (accepted : checkAny value = .accepted params) :
    ∃ kind, checkValue kind value = .accepted params := by
  unfold checkAny at accepted
  simp only at accepted
  split at accepted
  next read =>
    cases accepted
    exact ⟨.manualStart, accepted_of_under read⟩
  next read _ =>
    cases accepted
    exact ⟨.httpRequest, accepted_of_under read⟩
  next read _ _ =>
    cases accepted
    exact ⟨.wait, accepted_of_under read⟩
  next => cases accepted

theorem checkTaken_carries {taken : NodeKind} {mapping : Fields} {params : Params}
    (accepted : checkTaken taken mapping = .accepted params) : ∃ kind, Carries kind mapping params := by
  unfold checkTaken at accepted
  split at accepted
  next made =>
    cases accepted
    exact ⟨taken, check_carries made⟩
  next =>
    obtain ⟨kind, made⟩ := checkAny_accepted accepted
    exact ⟨kind, check_carries made⟩

/-- How a node comes by its parameters: by a check for its type, or as a record of its type that is left as it is,
or from a mapping that is no dictionary, which is checked for some kind. -/
inductive Comes (fields : Fields) (node : Node) : GivenParams → Prop
  | checked {given : GivenParams} (carried : Carried fields given node) : Comes fields node given
  | own (typed : Fields.get fields "type" = .text node.kind.word) : Comes fields node (.checked node.params)
  | taken {kind own : NodeKind} {mapping : Fields} (typed : Fields.get fields "type" = .text own.word)
      (carries : Carries kind mapping node.params) (by' : NodeKind) : Comes fields node (.mapping mapping by')

theorem build_comes {fields : Fields} {given : GivenParams} {node : Node}
    (accepted : build fields given = .accepted node) : Comes fields node given := by
  have checkedAs : ∀ {kind mapping}, kindOf? fields = some kind → given.Spells kind mapping →
      (check kind mapping).andThen (fun params => assemble fields (.accepted params)) = .accepted node →
      Comes fields node given := by
    intro kind mapping known spells accepted
    obtain ⟨params, read, built⟩ := accepted_of_andThen accepted
    cases (assembled built).2
    exact .checked ⟨kind, mapping, kindOf?_iff.mp known, spells, check_carries read⟩
  -- parameters that are no mapping at all are refused whatever the type
  have unfit : ∀ {value : Value}, (∀ mapping, value ≠ .record mapping) →
      assemble fields (checkAny value) ≠ .accepted node :=
    fun other built => checkAny_refused other _ (assembled built).2
  unfold build at accepted
  cases known : kindOf? fields with
  | none =>
      have untyped : ∀ {params : Checked Params}, assemble fields params ≠ .accepted node := by
        intro params built
        obtain ⟨kind, typed⟩ := (assembled built).1
        exact absurd (known.symm.trans typed) nofun
      simp only [known] at accepted
      cases given <;> exact absurd accepted untyped
  | some kind =>
      have typed := kindOf?_iff.mp known
      simp only [known] at accepted
      cases given with
      | absent => exact checkedAs known .absent accepted
      | checked params =>
          simp only at accepted
          split at accepted
          next own =>
            cases (assembled accepted).2
            exact .own (typed.trans (congrArg (fun kind => Value.text kind.word) own.symm))
          next other => exact checkedAs known (.foreign other) accepted
      | mapping mapping taken =>
          obtain ⟨other, carries⟩ := checkTaken_carries (assembled accepted).2
          exact .taken typed carries taken
      | value value =>
          cases value with
          | null => exact checkedAs known .null accepted
          | record mapping => exact checkedAs known (.mapping mapping) accepted
          | bool | int | float | text | list | foreign => exact absurd accepted (unfit nofun)

/-- A value is checked for the type, or not at all. -/
theorem carried_of_value {fields : Fields} {value : Value} {node : Node}
    (accepted : build fields (.value value) = .accepted node) : Carried fields (.value value) node := by
  cases build_comes accepted with
  | checked carried => exact carried

def paramsOf (fields : Fields) : GivenParams :=
  match Fields.get? fields "params" with
  | some value => .value value
  | none => .absent

theorem carried_of_paramsOf {fields : Fields} {node : Node}
    (accepted : build fields (paramsOf fields) = .accepted node) : Carried fields (paramsOf fields) node := by
  unfold paramsOf at accepted ⊢
  split at accepted
  next => exact carried_of_value accepted
  next =>
    cases build_comes accepted with
    | checked carried => exact carried

/-- What an editor record gives for them; whatever is empty counts as an empty mapping. -/
def editorParams (fields : Fields) : Value :=
  let data := Fields.get fields "data"
  if data.isBlank then .record [] else data

theorem ofValue_carried {value : Value} {node : Node} (accepted : ofValue value = .accepted node) :
    ∃ fields, value = .record fields ∧ Carried fields (paramsOf fields) node := by
  cases value with
  | record fields => exact ⟨fields, rfl, carried_of_paramsOf accepted⟩
  | null | bool | int | float | text | list | foreign => cases accepted

theorem ofEditor_carried {value : Value} {node : Node} (read : ofEditor value = .ok node) :
    ∃ fields, value = .record fields ∧ Carried fields (.value (editorParams fields)) node := by
  cases value with
  | record fields =>
      obtain ⟨kind, mapping, known, spells, carries⟩ := carried_of_value (ok_of_toExcept read)
      exact ⟨fields, rfl, kind, mapping, known, spells, carries⟩
  | null | bool | int | float | text | list | foreign => cases read

def requestParams : Params :=
  .httpRequest .post "http://host/a" [(.name "duration", .text " 250 "), (.name "note", .null)]

def pauseFields : Fields := [(.name "id", .text "pause"), (.name "type", .text "waitingNode")]

end Node

end WorkflowRuns
