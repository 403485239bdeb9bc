import Mathlib.Data.List.Forall2
import Mathlib.Logic.Relation
import WorkflowRuns.Proofs.Config.Settings
import WorkflowRuns.Schema.Scalar

/-!
Two records that are checked side by side.  A check sees no order of keys, no keys under other names, and no
difference between null and an absent field that is optional.
-/

namespace WorkflowRuns

namespace Fields

theorem get?_cons (key : Key) (value : Value) (fields : Fields) (name : String) :
    get? ((key, value) :: fields) name = if key = .name name then some value else get? fields name := by
  unfold get?
  rw [List.lookup_cons]
  by_cases same : key = .name name
  · rw [if_pos same, same, beq_self_eq_true]
  · rw [if_neg same, beq_eq_false_iff_ne.mpr (Ne.symm same)]

theorem get?_append (before after : Fields) (name : String) :
    get? (before ++ after) name = (get? before name).or (get? after name) := List.lookup_append

theorem get?_perm {fields others : Fields} (perm : fields.Perm others) (distinct : (fields.map Prod.fst).Nodup)
    (name : String) : get? fields name = get? others name := by
  induction perm with
  | nil => rfl
  | cons entry _ ih => rw [get?_cons, get?_cons, ih distinct.of_cons]
  | swap first second rest =>
      obtain ⟨key, value⟩ := first
      obtain ⟨other, _⟩ := second
      have apart : other ≠ key := fun same => (List.nodup_cons.mp distinct).1 (same ▸ List.mem_cons_self)
      simp only [get?_cons]
      split_ifs with one two
      · exact absurd (one.trans two.symm) apart
      all_goals rfl
  | trans left _ first second => rw [first distinct, second ((left.map Prod.fst).nodup_iff.mp distinct)]

theorem get?_inserted (before after : Fields) {key : Key} (value : Value) {name : String} (other : key ≠ .name name) :
    get? (before ++ (key, value) :: after) name = get? (before ++ after) name := by
  rw [get?_append, get?_append, get?_cons, if_neg other]

theorem get?_replaced (before after : Fields) (key : Key) (a b : Value) (name : String) :
    get? (before ++ (key, a) :: after) name = get? (before ++ (key, b) :: after) name ∨
      key = .name name ∧ get? (before ++ (key, a) :: after) name = some a ∧
        get? (before ++ (key, b) :: after) name = some b := by
  simp only [get?_append, get?_cons]
  cases get? before name with
  | some value => exact Or.inl rfl
  | none =>
      split_ifs with own
      · exact Or.inr ⟨own, rfl, rfl⟩
      · exact Or.inl rfl

end Fields

namespace Value

/-- A record inside a value has its keys in another order. -/
inductive Reordered : Value → Value → Prop
  | keys {fields others : Fields} (perm : fields.Perm others) (distinct : (fields.map Prod.fst).Nodup) :
      Reordered (.record fields) (.record others)
  | item {a b : Value} (before after : List Value) (inside : Reordered a b) :
      Reordered (.list (before ++ a :: after)) (.list (before ++ b :: after))
  | field {a b : Value} (before after : Fields) (key : Key) (inside : Reordered a b) :
      Reordered (.record (before ++ (key, a) :: after)) (.record (before ++ (key, b) :: after))

def Same : Value → Value → Prop := Relation.EqvGen Reordered

theorem Same.refl (v : Value) : Same v v := Relation.EqvGen.refl v

theorem Same.lift {β : Type} {f : Value → β} (steady : ∀ a b, Reordered a b → f a = f b) {a b : Value}
    (same : Same a b) : f a = f b :=
  congrArg (Quot.lift f steady) (Quot.eqvGen_sound same)

end Value

namespace Schema

open Fields Value

variable {α β γ δ : Type}

inductive Checked.Agree (related : α → β → Prop) : Checked α → Checked β → Prop
  | accepted {a : α} {b : β} (values : related a b) : Agree related (.accepted a) (.accepted b)
  | refused (faults : List Fault) : Agree related (.refused faults) (.refused faults)

namespace Checked.Agree

variable {related : α → β → Prop} {next : γ → δ → Prop}

theorem of_eq {x y : Checked α} (same : x = y) : Agree Eq x y := by
  subst same
  cases x with
  | accepted => exact .accepted rfl
  | refused => exact .refused _

theorem eq {x y : Checked α} (agree : Agree Eq x y) : x = y := by
  cases agree with
  | accepted values => rw [values]
  | refused => rfl

theorem map {f : α → γ} {g : β → δ} {x : Checked α} {y : Checked β}
    (applied : ∀ a b, related a b → next (f a) (g b)) (agree : Agree related x y) :
    Agree next (f <$> x) (g <$> y) := by
  cases agree with
  | accepted values => exact .accepted (applied _ _ values)
  | refused faults => exact .refused faults

theorem seq {f : Checked (α → γ)} {g : Checked (β → δ)} {x : Checked α} {y : Checked β}
    (functions : Agree (fun f g => ∀ a b, related a b → next (f a) (g b)) f g) (agree : Agree related x y) :
    Agree next (f <*> x) (g <*> y) := by
  cases functions with
  | accepted applied =>
      cases agree with
      | accepted values => exact .accepted (applied _ _ values)
      | refused faults => exact .refused faults
  | refused faults =>
      cases agree with
      | accepted => exact .refused faults
      | refused more => exact .refused (faults ++ more)

theorem under {x : Checked α} {y : Checked β} (place : Place) (agree : Agree related x y) :
    Agree related (x.under place) (y.under place) := by
  cases agree with
  | accepted values => exact .accepted values
  | refused => exact .refused _

theorem items {f : Value → Checked α} {g : Value → Checked β} {values others : List Value}
    (agree : List.Forall₂ (fun a b => Agree related (f a) (g b)) values others) (index : Nat) :
    Agree (List.Forall₂ related) (Schema.items f index values) (Schema.items g index others) := by
  induction agree generalizing index with
  | nil => exact .accepted .nil
  | cons first _ ih =>
      exact .seq (.map (fun _ _ head _ _ tail => .cons head tail) (first.under (.item index))) (ih (index + 1))

end Checked.Agree

/-- The names that the fields of a record have: in documents, other ones besides, and those of fields which null
leaves out. -/
structure Names where
  wires : List String
  plains : List String
  optional : List String
  apart : ∀ name ∈ plains, name ∉ optional

namespace Names

def known (names : Names) : List String := names.wires ++ names.plains

def Wired (names : Names) (fields : Fields) : Prop := ∀ name ∈ names.plains, get? fields name = none

instance (names : Names) (fields : Fields) : Decidable (names.Wired fields) :=
  inferInstanceAs (Decidable (∀ name ∈ names.plains, get? fields name = none))

/-- What is found under a name. -/
def seen (names : Names) (fields : Fields) (name : String) : Option Value :=
  if name ∈ names.optional ∧ get? fields name = some .null then none else get? fields name

variable {names : Names} {fields others : Fields} {name : String}

theorem seen_of_get? (same : get? fields name = get? others name) : names.seen fields name = names.seen others name := by
  rw [seen, seen, same]

theorem seen_of_required (required : name ∉ names.optional) : names.seen fields name = get? fields name :=
  if_neg fun held => required held.1

theorem seen_of_some {value : Value} (held : get? fields name = some value) (present : value ≠ .null) :
    names.seen fields name = some value := by
  rw [seen, held, if_neg fun null => present (Option.some.inj null.2)]

theorem seen_of_blank (optional : name ∈ names.optional)
    (blank : get? fields name = none ∨ get? fields name = some .null) : names.seen fields name = none := by
  unfold seen
  rcases blank with absent | null
  · rw [absent, ite_self]
  · rw [if_pos ⟨optional, null⟩]

end Names

/-- A change to a record that its reader is meant to overlook. -/
inductive Edited (names : Names) : Fields → Fields → Prop
  | unknown (before after : Fields) {key : Key} (value : Value) (other : ∀ name ∈ names.known, key ≠ .name name) :
      Edited names (before ++ after) (before ++ (key, value) :: after)
  | null (before after : Fields) {name : String} (optional : name ∈ names.optional)
      (absent : get? (before ++ after) name = none) :
      Edited names (before ++ after) (before ++ (.name name, .null) :: after)
  | reordered {fields others : Fields} (perm : fields.Perm others) (distinct : (fields.map Prod.fst).Nodup) :
      Edited names fields others

theorem Edited.seen {names : Names} {fields others : Fields} (edited : Edited names fields others) {name : String}
    (known : name ∈ names.known) : names.seen fields name = names.seen others name := by
  cases edited with
  | unknown before after value other => exact Names.seen_of_get? (get?_inserted before after value (other name known)).symm
  | @null before after left optional absent =>
      by_cases same : left = name
      · subst same
        have null : get? (before ++ (.name left, .null) :: after) left = some .null := by
          rw [get?_append, Option.or_eq_none_iff] at absent
          rw [get?_append, absent.1, get?_cons, if_pos rfl]
          rfl
        rw [Names.seen_of_blank optional (.inl absent), Names.seen_of_blank optional (.inr null)]
      · exact Names.seen_of_get? (get?_inserted before after .null fun own => same (Key.name.inj own)).symm
  | reordered perm distinct => exact Names.seen_of_get? (get?_perm perm distinct name)

section Fields

variable {names : Names} {fields others : Fields} {wire plain : String} {check : Value → Checked α} {absent a : α}

theorem find?_wired (wired : names.Wired fields) (named : plain = wire ∨ plain ∈ names.plains) :
    find? fields wire plain = (get? fields wire).map (wire, ·) := by
  unfold find?
  cases held : get? fields wire with
  | some value => rfl
  | none =>
      rcases named with rfl | plain
      · rw [held]
      · rw [wired _ plain]
        rfl

theorem held_of_required (wired : names.Wired fields) (named : plain = wire ∨ plain ∈ names.plains)
    (accepted : required fields wire plain check = .accepted a) :
    ∃ value, get? fields wire = some value ∧ check value = .accepted a := by
  rw [required, find?_wired wired named] at accepted
  cases held : get? fields wire with
  | none =>
      rw [held] at accepted
      cases accepted
  | some value =>
      rw [held] at accepted
      exact ⟨value, rfl, accepted_of_under accepted⟩

theorem held_of_defaulted (wired : names.Wired fields) (named : plain = wire ∨ plain ∈ names.plains)
    (accepted : defaulted fields wire plain absent check = .accepted a) :
    get? fields wire = none ∧ a = absent ∨ ∃ value, get? fields wire = some value ∧ check value = .accepted a := by
  rw [defaulted, find?_wired wired named] at accepted
  cases held : get? fields wire with
  | none =>
      rw [held] at accepted
      exact Or.inl ⟨rfl, (Checked.accepted.inj accepted).symm⟩
  | some value =>
      rw [held] at accepted
      exact Or.inr ⟨value, rfl, accepted_of_under accepted⟩

theorem held_of_nullable (wired : names.Wired fields) (named : plain = wire ∨ plain ∈ names.plains)
    (null : check .null = .accepted absent) (accepted : defaulted fields wire plain absent check = .accepted a) :
    check (Fields.get fields wire) = .accepted a := by
  rcases held_of_defaulted wired named accepted with ⟨missing, rfl⟩ | ⟨value, held, checked⟩
  · rw [Fields.get, missing]
    exact null
  · rw [Fields.get, held]
    exact checked

theorem required_seen (wired : names.Wired fields) (named : plain = wire ∨ plain ∈ names.plains)
    (needed : wire ∉ names.optional) :
    required fields wire plain check =
      (names.seen fields wire).elim ((fail .missing).under (.field wire)) fun value =>
        (check value).under (.field wire) := by
  rw [required, find?_wired wired named, Names.seen_of_required needed]
  cases get? fields wire <;> rfl

theorem defaulted_seen (wired : names.Wired fields) (named : plain = wire ∨ plain ∈ names.plains)
    (null : wire ∈ names.optional → check .null = .accepted absent) :
    defaulted fields wire plain absent check =
      (names.seen fields wire).elim (.accepted absent) fun value => (check value).under (.field wire) := by
  rw [defaulted, find?_wired wired named]
  cases held : get? fields wire with
  | none =>
      rw [Names.seen, held, ite_self]
      rfl
  | some value =>
      by_cases blank : wire ∈ names.optional ∧ value = .null
      · obtain ⟨optional, rfl⟩ := blank
        rw [Names.seen_of_blank optional (.inr held), Option.map_some]
        simp only [null optional, Checked.under, Option.elim_none]
      · rw [Names.seen, held, if_neg fun blanked => blank ⟨blanked.1, Option.some.inj blanked.2⟩]
        rfl

end Fields

theorem accepted_of_items {values : List Value} {as : List α} {index : Nat}
    (accepted : items check index values = .accepted as) :
    List.Forall₂ (fun value a => check value = .accepted a) values as := by
  induction values generalizing index as with
  | nil =>
      cases accepted
      exact .nil
  | cons value rest ih =>
      obtain ⟨_, tail, first, others, rfl⟩ := accepted_of_seq accepted
      obtain ⟨head, checked, rfl⟩ := accepted_of_map first
      exact .cons (accepted_of_under checked) (ih others)

section Views

variable {sees : Value → γ} {names : Names} {exempt : List String} {fields others : Fields} {wire plain : String}

def Names.view (names : Names) (exempt : List String) (sees : Value → γ) (fields : Fields) (name : String) : Option γ :=
  if name ∈ names.known ∧ name ∉ exempt then (names.seen fields name).map sees else none

theorem view_eq_iff : names.view exempt sees fields = names.view exempt sees others ↔
    ∀ name ∈ names.known, name ∉ exempt → (names.seen fields name).map sees = (names.seen others name).map sees := by
  constructor
  · intro same name known counted
    have here := congrFun same name
    rwa [Names.view, Names.view, if_pos ⟨known, counted⟩, if_pos ⟨known, counted⟩] at here
  · intro same
    funext name
    unfold Names.view
    split_ifs with shown
    · exact same name shown.1 shown.2
    · rfl

theorem wired_of_view (same : names.view exempt sees fields = names.view exempt sees others)
    (wired : names.Wired fields) (counted : ∀ name ∈ names.plains, name ∉ exempt) : names.Wired others := by
  intro name member
  have here := view_eq_iff.mp same name (List.mem_append_right _ member) (counted name member)
  have needed := names.apart name member
  rw [Names.seen_of_required needed, Names.seen_of_required needed, wired name member] at here
  exact Option.map_eq_none_iff.mp here.symm

variable {related : α → β → Prop}

theorem Checked.Agree.elim {seen unseen : Option Value} (same : seen.map sees = unseen.map sees)
    {absent : Checked α} {absent' : Checked β} {f : Value → Checked α} {g : Value → Checked β}
    (absents : Agree related absent absent')
    (values : ∀ a b, seen = some a → sees a = sees b → Agree related (f a) (g b)) :
    Agree related (seen.elim absent f) (unseen.elim absent' g) := by
  cases seen with
  | none =>
      rw [Option.map_eq_none_iff.mp same.symm]
      exact absents
  | some a =>
      obtain ⟨b, rfl, alike⟩ := Option.map_eq_some_iff.mp same.symm
      exact values a b rfl alike.symm

/-- Two records with the names of documents in which the same is seen. -/
structure Twins (names : Names) (exempt : List String) (sees : Value → γ) (fields others : Fields) : Prop where
  view : names.view exempt sees fields = names.view exempt sees others
  wired : names.Wired fields
  wired' : names.Wired others

namespace Twins

variable {check check' : Value → Checked α} {related : α → α → Prop}

theorem required (twins : Twins names exempt sees fields others)
    (place : wire ∈ names.known ∧ wire ∉ exempt ∧ (plain = wire ∨ plain ∈ names.plains) ∧ wire ∉ names.optional)
    (checked : ∀ a b, sees a = sees b → Checked.Agree related (check a) (check b)) :
    Checked.Agree related (Schema.required fields wire plain check) (Schema.required others wire plain check) := by
  obtain ⟨known, counted, named, needed⟩ := place
  rw [required_seen twins.wired named needed, required_seen twins.wired' named needed]
  exact .elim (view_eq_iff.mp twins.view wire known counted) (.refused _) fun a b _ same => (checked a b same).under _

theorem defaulted (twins : Twins names exempt sees fields others)
    (place : wire ∈ names.known ∧ wire ∉ exempt ∧ (plain = wire ∨ plain ∈ names.plains)) {absent : α}
    (null : wire ∈ names.optional → check .null = .accepted absent) (default : related absent absent)
    (checked : ∀ a b, sees a = sees b → Checked.Agree related (check a) (check b)) :
    Checked.Agree related (Schema.defaulted fields wire plain absent check)
      (Schema.defaulted others wire plain absent check) := by
  obtain ⟨known, counted, named⟩ := place
  rw [defaulted_seen twins.wired named null, defaulted_seen twins.wired' named null]
  exact .elim (view_eq_iff.mp twins.view wire known counted) (.accepted default) fun a b _ same =>
    (checked a b same).under _

end Twins

end Views

def Steady {β : Type} (check : Value → β) : Prop := ∀ a b, Reordered a b → check a = check b

theorem Steady.agree {check : Value → Checked α} (steady : Steady check) {a b : Value} (same : Same a b) :
    Checked.Agree Eq (check a) (check b) := .of_eq (same.lift steady)

theorem steady_text : Steady text := fun _ _ reordered => by cases reordered <;> rfl

theorem steady_integer : Steady integer := fun _ _ reordered => by cases reordered <;> rfl

theorem steady_choice (options : List (String × α)) : Steady (choice options) := fun _ _ reordered => by
  cases reordered <;> rfl

theorem Steady.nullable {check : Value → Checked α} (steady : Steady check) : Steady (nullable check) := by
  intro a b reordered
  have same : (check a).map some = (check b).map some := by rw [steady a b reordered]
  cases reordered <;> exact same

theorem Steady.listOf {check : Value → Checked α} (steady : Steady check) : Steady (listOf check) := by
  intro a b reordered
  cases reordered with
  | keys => rfl
  | field => rfl
  | @item a b before after inside =>
      have alike : List.Forall₂ (fun a b => Checked.Agree Eq (check a) (check b)) (before ++ a :: after)
          (before ++ b :: after) :=
        List.rel_append (List.forall₂_same.mpr fun _ _ => .of_eq rfl)
          (.cons (.of_eq (steady a b inside)) (List.forall₂_same.mpr fun _ _ => .of_eq rfl))
      have agree := Checked.Agree.items alike 0
      rw [List.forall₂_eq_eq_eq] at agree
      exact agree.eq

end Schema

end WorkflowRuns
