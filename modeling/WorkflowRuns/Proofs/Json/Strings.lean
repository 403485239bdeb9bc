import Mathlib.Data.List.Chain
import WorkflowRuns.Json.Reader
import WorkflowRuns.Json.Writer

/-!
Strings that are written and read back.  A half of a character is written as an escape and read as this
half, unless a high half stands directly before a low one: the two are read as the character they spell.
-/

namespace WorkflowRuns

namespace Text

theorem points_append (s t : String) : points (s ++ t) = points s ++ points t := by
  simp [points]

theorem halves_char (c : Char) : isHighHalf c.toNat = false ∧ isLowHalf c.toNat = false := by
  have valid := c.valid
  simp only [UInt32.isValidChar, Nat.isValidChar] at valid
  simp only [isHighHalf, isLowHalf, Bool.and_eq_false_iff, decide_eq_false_iff_not, Char.toNat]
  omega

theorem not_low_of_high {n : Nat} (high : isHighHalf n = true) : isLowHalf n = false := by
  simp only [isHighHalf, Bool.and_eq_true, decide_eq_true_eq] at high
  simp only [isLowHalf, Bool.and_eq_false_iff, decide_eq_false_iff_not]
  omega

theorem not_high_of_low {n : Nat} (low : isLowHalf n = true) : isHighHalf n = false := by
  cases high : isHighHalf n with
  | false => rfl
  | true => simp [not_low_of_high high] at low

theorem ofNat_code (p : CodePoint) : CodePoint.ofNat p.code = p := by
  cases p with
  | char c =>
      have whole := halves_char c
      simp only [isHighHalf, isLowHalf, Bool.and_eq_false_iff, decide_eq_false_iff_not] at whole
      have outside : ¬ (0xd800 ≤ c.toNat ∧ c.toNat < 0xe000) := by omega
      simp [CodePoint.ofNat, CodePoint.code, outside]
  | half offset =>
      have bound := offset.isLt
      have inside : 0xd800 + (offset : Nat) < 0xe000 := by omega
      simp [CodePoint.ofNat, CodePoint.code, inside]

def IsPair (p q : CodePoint) : Prop := isHighHalf p.code = true ∧ isLowHalf q.code = true

instance (p q : CodePoint) : Decidable (IsPair p q) := inferInstanceAs (Decidable (_ ∧ _))

/-- A code point before a text, together with the first one there if they make a pair. -/
def attach (p : CodePoint) : List CodePoint → List CodePoint
  | [] => [p]
  | q :: rest => if IsPair p q then .char (joinHalves p.code q.code) :: rest else p :: q :: rest

def joined (text : List CodePoint) : List CodePoint := text.foldr attach []

def Unpaired (text : List CodePoint) : Prop := text.IsChain fun p q => ¬ IsPair p q

theorem joined_cons (p : CodePoint) (text : List CodePoint) : joined (p :: text) = attach p (joined text) := rfl

theorem attach_whole {p : CodePoint} (whole : isHighHalf p.code = false) (text : List CodePoint) :
    attach p text = p :: text := by
  cases text with
  | nil => rfl
  | cons q rest => exact if_neg fun pair => Bool.false_ne_true (whole.symm.trans pair.1)

theorem attach_length (p : CodePoint) (text : List CodePoint) : (attach p text).length ≤ text.length + 1 := by
  cases text with
  | nil => simp [attach]
  | cons q rest =>
      by_cases pair : IsPair p q
      · simp [attach, if_pos pair]
      · simp [attach, if_neg pair]

theorem joined_length (text : List CodePoint) : (joined text).length ≤ text.length := by
  induction text with
  | nil => exact le_rfl
  | cons p text ih => exact (attach_length p _).trans (Nat.succ_le_succ ih)

theorem joined_pair {p q : CodePoint} (pair : IsPair p q) (text : List CodePoint) :
    joined (p :: q :: text) = .char (joinHalves p.code q.code) :: joined text := by
  rw [joined_cons, joined_cons, attach_whole (not_high_of_low pair.2)]
  exact if_pos pair

theorem low_of_joined {text rest : List CodePoint} {q : CodePoint} (low : isLowHalf q.code = true)
    (front : joined text = q :: rest) : ∃ more, text = q :: more := by
  cases text with
  | nil => cases front
  | cons p text =>
      rw [joined_cons] at front
      cases later : joined text with
      | nil =>
          rw [later] at front
          cases front
          exact ⟨text, rfl⟩
      | cons next after =>
          rw [later] at front
          by_cases pair : IsPair p next
          · rw [attach, if_pos pair] at front
            rw [← (List.cons.inj front).1, CodePoint.code, (halves_char _).2] at low
            cases low
          · rw [attach, if_neg pair] at front
            exact ⟨text, by rw [(List.cons.inj front).1]⟩

theorem joined_single {p : CodePoint} {text : List CodePoint} (alone : ∀ q more, text = q :: more → ¬ IsPair p q) :
    joined (p :: text) = p :: joined text := by
  rw [joined_cons]
  cases later : joined text with
  | nil => rfl
  | cons q rest =>
      refine if_neg fun pair => ?_
      obtain ⟨more, same⟩ := low_of_joined pair.2 later
      exact alone q more same pair

theorem joined_eq_iff {text : List CodePoint} : joined text = text ↔ Unpaired text := by
  induction text with
  | nil => exact ⟨fun _ => .nil, fun _ => rfl⟩
  | cons p text ih =>
      constructor
      · intro same
        have alone : ∀ q more, text = q :: more → ¬ IsPair p q := by
          rintro q more rfl pair
          have short := joined_length more
          rw [joined_pair pair] at same
          have length := congrArg List.length same
          simp only [List.length_cons] at length
          omega
        rw [joined_single alone] at same
        have later := ih.mp (List.cons.inj same).2
        cases text with
        | nil => exact .singleton p
        | cons q more => exact .cons_cons (alone q more rfl) later
      · intro unpaired
        rw [joined_single, ih.mpr unpaired.tail]
        rintro q more rfl
        exact (List.isChain_cons_cons.mp unpaired).1

end Text

namespace Json

open Text

def hexDigit (k : Nat) : Char := hexDigits.getD (k % 16) '0'

theorem hexDigit?_hexDigit (k : Nat) : hexDigit? (.char (hexDigit k)) = some (k % 16) := by
  have digits : ∀ d < 16, hexDigit? (.char (hexDigits.getD d '0')) = some d := by decide
  exact digits (k % 16) (Nat.mod_lt k (by decide))

theorem hex4_points (n : Nat) : points (hex4 n) =
    [.char (hexDigit (n / 4096)), .char (hexDigit (n / 256)), .char (hexDigit (n / 16)), .char (hexDigit n)] := by
  simp [points, hex4, hexDigit]

theorem readUnit_hex4 {n : Nat} (unit : n < 0x10000) {rest : List CodePoint} (more : rest ≠ []) :
    readUnit (points (hex4 n) ++ rest) = some (n, rest) := by
  obtain ⟨next, rest, rfl⟩ := List.exists_cons_of_ne_nil more
  have value : n / 4096 % 16 * 4096 + n / 256 % 16 * 256 + n / 16 % 16 * 16 + n % 16 = n := by omega
  simp [hex4_points, readUnit, hex4?, hexDigit?_hexDigit, value]

def unitText (n : Nat) : List CodePoint := .char '\\' :: .char 'u' :: points (hex4 n)

theorem unitText_ne_nil (n : Nat) (rest : List CodePoint) : unitText n ++ rest ≠ [] := List.cons_ne_nil _ _

theorem readLow_unit {n : Nat} (unit : n < 0x10000) {rest : List CodePoint} (more : rest ≠ []) :
    readLow (unitText n ++ rest) = if isLowHalf n then some (n, rest) else none := by
  simp only [unitText, List.cons_append, readLow, readUnit_hex4 unit more, Option.filter_some]

section Pieces

variable (opening done : List CodePoint) {rest : List CodePoint}

theorem readString_close (rest : List CodePoint) :
    readString opening done (.char '"' :: rest) = .ok (done.reverse, rest) := by
  rw [readString]

theorem readString_plain {p : CodePoint} (quote : p ≠ .char '"') (slash : p ≠ .char '\\') (printed : 0x20 ≤ p.code)
    (rest : List CodePoint) : readString opening done (p :: rest) = readString opening (p :: done) rest := by
  rw [readString.eq_def]
  split
  case h_5 same =>
    cases same
    rw [if_neg (Nat.not_lt.mpr printed)]
  all_goals simp_all

theorem readString_simple {c plain : Char} (escape : simpleEscape? (.char c) = some plain) (rest : List CodePoint) :
    readString opening done (.char '\\' :: .char c :: rest) = readString opening (.char plain :: done) rest := by
  have unit : c ≠ 'u' := by
    rintro rfl
    cases escape
  rw [readString.eq_def]
  simp [unit, escape]

theorem readString_unit {n : Nat} {p : CodePoint} {after : List CodePoint}
    (escape : readEscape (points (hex4 n) ++ rest) = some (p, after)) :
    readString opening done (unitText n ++ rest) = readString opening (p :: done) after := by
  rw [unitText, List.cons_append, List.cons_append, readString]
  split
  next none =>
    rw [escape] at none
    cases none
  next q left some =>
    rw [escape] at some
    cases some
    rfl

theorem readEscape_single {n : Nat} (unit : n < 0x10000) (more : rest ≠ [])
    (alone : isHighHalf n = true → readLow rest = none) :
    readEscape (points (hex4 n) ++ rest) = some (.ofNat n, rest) := by
  have follows : (if isHighHalf n = true then readLow rest else none) = none := by
    split
    next high => exact alone high
    next => rfl
  simp [readEscape, readUnit_hex4 unit more, follows]

theorem readEscape_pair {high low : Nat} {after : List CodePoint} (unit : high < 0x10000) (more : rest ≠ [])
    (upper : isHighHalf high = true) (follows : readLow rest = some (low, after)) :
    readEscape (points (hex4 high) ++ rest) = some (.char (joinHalves high low), after) := by
  simp [readEscape, readUnit_hex4 unit more, upper, follows]

theorem joinHalves_halves {c : Char} (outside : 0x10000 ≤ c.toNat) :
    joinHalves (0xd800 + (c.toNat - 0x10000) / 1024) (0xdc00 + (c.toNat - 0x10000) % 1024) = c := by
  have whole : 0x10000 + (0xd800 + (c.toNat - 0x10000) / 1024 - 0xd800) * 1024
      + (0xdc00 + (c.toNat - 0x10000) % 1024 - 0xdc00) = c.toNat := by omega
  rw [joinHalves, whole, Char.ofNat_toNat]

theorem code_lt (c : Char) : c.toNat < 0x110000 := by
  have range := c.valid
  simp only [UInt32.isValidChar, Nat.isValidChar] at range
  simp only [Char.toNat]
  omega

theorem halves_of_outside {c : Char} (outside : 0x10000 ≤ c.toNat) :
    let high := 0xd800 + (c.toNat - 0x10000) / 1024
    let low := 0xdc00 + (c.toNat - 0x10000) % 1024
    (high < 0x10000 ∧ isHighHalf high = true) ∧ low < 0x10000 ∧ isLowHalf low = true := by
  have bound := code_lt c
  simp only [isHighHalf, isLowHalf, Bool.and_eq_true, decide_eq_true_eq]
  omega

theorem unitText_points (n : Nat) : points ("\\u" ++ hex4 n) = unitText n := by
  rw [points_append]
  rfl

theorem escapeUnits_points (c : Char) : points (escapeUnits c) =
    if c.toNat < 0x10000 then unitText c.toNat
    else unitText (0xd800 + (c.toNat - 0x10000) / 1024) ++ unitText (0xdc00 + (c.toNat - 0x10000) % 1024) := by
  unfold escapeUnits
  by_cases inside : c.toNat < 0x10000
  · simp only [inside, if_true, unitText_points]
  · simp only [inside, if_false]
    rw [String.append_assoc, points_append, unitText_points, unitText_points]

theorem readString_units (c : Char) (more : rest ≠ []) :
    readString opening done (points (escapeUnits c) ++ rest) = readString opening (.char c :: done) rest := by
  rw [escapeUnits_points]
  by_cases inside : c.toNat < 0x10000
  · rw [if_pos inside]
    have escape := readEscape_single inside more fun high => by simp [(halves_char c).1] at high
    have same : CodePoint.ofNat c.toNat = .char c := ofNat_code (.char c)
    rw [same] at escape
    exact readString_unit opening done escape
  · rw [if_neg inside]
    have outside := Nat.not_lt.mp inside
    obtain ⟨⟨upperUnit, upper⟩, lowerUnit, lower⟩ := halves_of_outside outside
    have follows := readLow_unit lowerUnit more
    rw [if_pos lower] at follows
    have escape := readEscape_pair upperUnit (unitText_ne_nil _ _) upper follows
    rw [joinHalves_halves outside] at escape
    rw [List.append_assoc]
    exact readString_unit opening done escape

theorem readString_char (c : Char) (more : rest ≠ []) :
    readString opening done (points (escapeChar c) ++ rest) = readString opening (.char c :: done) rest := by
  unfold escapeChar
  split
  case h_8 _ quote slash _ _ _ _ _ =>
    split
    next printed =>
      simp only [Bool.and_eq_true, decide_eq_true_eq] at printed
      have quoted : CodePoint.char c ≠ .char '"' := by simpa using quote
      have slashed : CodePoint.char c ≠ .char '\\' := by simpa using slash
      simpa [points] using readString_plain opening done quoted slashed printed.1 rest
    next => exact readString_units opening done c more
  all_goals exact readString_simple opening done rfl rest

theorem readLow_char (c : Char) (more : rest ≠ []) : readLow (points (escapeChar c) ++ rest) = none := by
  unfold escapeChar
  split
  case h_8 _ quote slash _ _ _ _ _ =>
    split
    next =>
      have slashed : CodePoint.char c ≠ .char '\\' := by simpa using slash
      simp only [points, String.toList_singleton, List.map_cons, List.map_nil, List.singleton_append]
      unfold readLow
      split
      next same => exact absurd (List.cons.inj same).1 slashed
      next => rfl
    next =>
      rw [escapeUnits_points]
      by_cases inside : c.toNat < 0x10000
      · rw [if_pos inside, readLow_unit inside more, (halves_char c).2]
        rfl
      · obtain ⟨⟨unit, upper⟩, _⟩ := halves_of_outside (Nat.not_lt.mp inside)
        rw [if_neg inside, List.append_assoc, readLow_unit unit (unitText_ne_nil _ _), not_low_of_high upper]
        rfl
  all_goals rfl

end Pieces

def escaped (s : List CodePoint) : List CodePoint := s.flatMap fun p => points (escapePoint p)

theorem quote_append (s rest : List CodePoint) :
    points (quote s) ++ rest = .char '"' :: (escaped s ++ .char '"' :: rest) := by
  have inside : points (String.join (s.map escapePoint)) = escaped s := by
    simp [points, escaped, List.flatMap_map, List.map_flatMap]
  rw [quote, points_append, points_append, inside]
  simp [points]

theorem escapePoint_half (offset : Fin 2048) :
    points (escapePoint (.half offset)) = unitText (CodePoint.half offset).code :=
  unitText_points _

theorem half_unit (offset : Fin 2048) : (CodePoint.half offset).code < 0x10000 := by
  have bound := offset.isLt
  simp only [CodePoint.code]
  omega

theorem readLow_escaped (s rest : List CodePoint) : readLow (escaped s ++ .char '"' :: rest) =
    match s with
    | q :: more => if isLowHalf q.code then some (q.code, escaped more ++ .char '"' :: rest) else none
    | [] => none := by
  have present : ∀ t, escaped t ++ CodePoint.char '"' :: rest ≠ [] := by simp
  cases s with
  | nil => rfl
  | cons q more =>
      simp only [escaped, List.flatMap_cons, List.append_assoc]
      cases q with
      | char c =>
          rw [CodePoint.code, (halves_char c).2]
          exact readLow_char c (present more)
      | half offset =>
          rw [escapePoint_half]
          exact readLow_unit (half_unit offset) (present more)

theorem escaped_cons (p : CodePoint) (s rest : List CodePoint) :
    escaped (p :: s) ++ .char '"' :: rest = points (escapePoint p) ++ (escaped s ++ .char '"' :: rest) := by
  simp [escaped]

theorem readString_points (opening done s rest : List CodePoint) :
    readString opening done (escaped s ++ .char '"' :: rest) = .ok (done.reverse ++ joined s, rest) := by
  have present : ∀ t, escaped t ++ CodePoint.char '"' :: rest ≠ [] := by simp
  match s with
  | [] =>
      rw [joined, List.foldr_nil, List.append_nil]
      exact readString_close opening done rest
  | .char c :: s =>
      rw [escaped_cons, escapePoint, readString_char opening done c (present s), readString_points,
        joined_cons, attach_whole (p := .char c) (halves_char c).1]
      simp
  | .half offset :: s =>
      rw [escaped_cons, escapePoint_half]
      -- A low half that follows is read at once, and the string is read on after it.
      by_cases paired : ∃ q more, s = q :: more ∧ IsPair (.half offset) q
      · obtain ⟨q, more, rfl, pair⟩ := paired
        have follows := readLow_escaped (q :: more) rest
        simp only [pair.2, if_true] at follows
        rw [readString_unit opening done (readEscape_pair (half_unit offset) (present _) pair.1 follows),
          readString_points, joined_pair pair]
        simp
      · have alone : ∀ q more, s = q :: more → ¬ IsPair (.half offset) q :=
          fun q more same pair => paired ⟨q, more, same, pair⟩
        have unfollowed : isHighHalf (CodePoint.half offset).code = true →
            readLow (escaped s ++ .char '"' :: rest) = none := by
          intro high
          rw [readLow_escaped]
          cases s with
          | nil => rfl
          | cons q more => exact if_neg fun low => alone q more rfl ⟨high, low⟩
        have escape := readEscape_single (half_unit offset) (present s) unfollowed
        rw [ofNat_code] at escape
        rw [readString_unit opening done escape, readString_points, joined_single alone]
        simp
termination_by s.length

theorem readString_escaped (opening s rest : List CodePoint) :
    readString opening [] (escaped s ++ .char '"' :: rest) = .ok (joined s, rest) :=
  readString_points opening [] s rest

end Json

end WorkflowRuns
