import FormLogic.Scan.State
import FormLogic.Text.Blank

/-!
# Cutting an expression at its top level

* `split` cuts at every top-level occurrence of an operator and loses nothing: joined by the
  operator, the pieces are the text again;
* `arguments` and `items` are the two readings of a comma-separated list;
* `ternary?` finds the first top-level question mark and the colon that closes it;
* `group?` takes the parentheses off a text that is one group.

The pieces are never longer than the text; what the evaluator recurses on is shorter.
-/

namespace FormLogic.Scan

/-! ## 1. Operators -/

/-- **Cuts at an operator.**  Each character is fed to the scanner; where that leaves the text
at the top level and the operator stands there, the piece ends and the rest of the operator
is passed over unfed, which is what `skip` counts. -/
def splitFrom (op : List Char) (s : State) (escaped : Bool) (skip : Nat) :
    List Char → List (List Char)
  | [] => [[]]
  | c :: cs =>
    match skip with
    | skip + 1 => splitFrom op s (c == '\\') skip cs
    | 0 =>
      let next := s.step escaped c
      if next.atTop && op.isPrefixOf (c :: cs) then
        [] :: splitFrom op next (c == '\\') (op.length - 1) cs
      else
        match splitFrom op next (c == '\\') 0 cs with
        | piece :: pieces => (c :: piece) :: pieces
        | [] => [[c]]

/-- The pieces of a text between the top-level occurrences of an operator; the whole text when
there is none. -/
def split (op cs : List Char) : List (List Char) := splitFrom op .start false 0 cs

/-- The two sides of a text in which an operator occurs exactly once at the top level. -/
def sides? (op cs : List Char) : Option (List Char × List Char) :=
  match split op cs with
  | [left, right] => some (left, right)
  | _ => none

/-- The total length of the pieces and of one operator for each cut. -/
theorem length_splitFrom (op : List Char) (s : State) (escaped : Bool) (skip : Nat)
    (cs : List Char) :
    splitFrom op s escaped skip cs ≠ [] ∧
      (splitFrom op s escaped skip cs).flatten.length
        + (splitFrom op s escaped skip cs).length ≤ cs.length + 1 := by
  induction cs generalizing s escaped skip with
  | nil => simp [splitFrom]
  | cons c cs ih =>
    cases skip with
    | succ skip =>
      have := ih s (c == '\\') skip
      simp only [splitFrom, List.length_cons]
      exact ⟨this.1, by omega⟩
    | zero =>
      simp only [splitFrom]
      split
      · have := ih (s.step escaped c) (c == '\\') (op.length - 1)
        simp only [List.flatten_cons, List.nil_append, List.length_cons]
        exact ⟨by simp, by omega⟩
      · have := ih (s.step escaped c) (c == '\\') 0
        split
        · next heq =>
          rw [heq] at this
          simp only [List.flatten_cons, List.length_append, List.length_cons] at this ⊢
          exact ⟨by simp, by omega⟩
        · next heq => exact absurd heq this.1

theorem split_ne_nil (op cs : List Char) : split op cs ≠ [] := (length_splitFrom ..).1

theorem length_le_of_mem_flatten {α : Type} {p : List α} {ps : List (List α)} (h : p ∈ ps) :
    p.length ≤ ps.flatten.length := by
  obtain ⟨before, after, rfl⟩ := List.append_of_mem h
  simp only [List.flatten_append, List.flatten_cons, List.length_append]
  omega

theorem length_le_of_mem_split {op cs p : List Char} (h : p ∈ split op cs) :
    p.length ≤ cs.length := by
  have h1 := length_le_of_mem_flatten h
  have h2 := (length_splitFrom op .start false 0 cs).2
  have h3 := List.length_pos_iff.mpr (split_ne_nil op cs)
  simp only [split] at h1 h2 h3
  omega

/-- A piece of a text that was cut at all is shorter than the text. -/
theorem length_lt_of_mem_split {op cs p : List Char} (h : p ∈ split op cs)
    (hcut : 1 < (split op cs).length) : p.length < cs.length := by
  have h1 := length_le_of_mem_flatten h
  have h2 := (length_splitFrom op .start false 0 cs).2
  simp only [split] at h1 h2 hcut
  omega

theorem length_lt_of_sides? {op cs l r : List Char} (h : sides? op cs = some (l, r)) :
    l.length < cs.length ∧ r.length < cs.length := by
  simp only [sides?] at h
  split at h
  · next heq =>
    simp only [Option.some.injEq, Prod.mk.injEq] at h
    obtain ⟨rfl, rfl⟩ := h
    constructor <;> exact @length_lt_of_mem_split op _ _ (by simp [heq]) (by simp [heq])
  · simp at h

/-! ## 2. Lists -/

/-- The trimmed arguments of a call: empty ones between commas are kept, an empty last one is
dropped, and blank text has none. -/
def arguments (cs : List Char) : List (List Char) :=
  let cs := Text.trim cs
  if cs.isEmpty then
    []
  else
    let pieces := (split [','] cs).map Text.trim
    if pieces.getLast? = some [] then pieces.dropLast else pieces

/-- The trimmed items of an array literal's body, without the empty ones. -/
def items (cs : List Char) : List (List Char) :=
  ((split [','] cs).map Text.trim).filter (!·.isEmpty)

theorem length_le_of_mem_arguments {cs a : List Char} (h : a ∈ arguments cs) :
    a.length ≤ cs.length := by
  have key : ∀ p ∈ (split [','] (Text.trim cs)).map Text.trim, p.length ≤ cs.length := by
    intro p hp
    obtain ⟨q, hq, rfl⟩ := List.mem_map.mp hp
    exact Nat.le_trans (Text.length_trim_le q)
      (Nat.le_trans (length_le_of_mem_split hq) (Text.length_trim_le cs))
  simp only [arguments] at h
  split at h
  · simp at h
  · split at h
    · exact key a ((List.dropLast_sublist _).mem h)
    · exact key a h

theorem length_le_of_mem_items {cs a : List Char} (h : a ∈ items cs) :
    a.length ≤ cs.length := by
  obtain ⟨h, -⟩ := List.mem_filter.mp h
  obtain ⟨p, hp, rfl⟩ := List.mem_map.mp h
  exact Nat.le_trans (Text.length_trim_le p) (length_le_of_mem_split hp)

/-! ## 3. Ternaries -/

/-- The three parts of `condition ? whenTrue : whenFalse`, trimmed. -/
structure Ternary where
  condition : List Char
  whenTrue : List Char
  whenFalse : List Char
deriving DecidableEq, Repr

/-- The text before the first top-level `c`, and what follows that, still marked. -/
def breakAtTop (c : Char) : List (Char × Bool) → Option (List Char × List (Char × Bool))
  | [] => none
  | (d, top) :: rest =>
    if top && d == c then some ([], rest)
    else (breakAtTop c rest).map fun (before, after) => (d :: before, after)

/-- The texts before and after the top-level colon that closes a ternary.  Every further
question mark on the way opens a ternary whose own colon comes first; `nested` counts them. -/
def breakAtColon (nested : Nat) : List (Char × Bool) → Option (List Char × List Char)
  | [] => none
  | (c, top) :: rest =>
    let onward (nested : Nat) :=
      (breakAtColon nested rest).map fun (before, after) => (c :: before, after)
    if top && c == '?' then onward (nested + 1)
    else if top && c == ':' then
      match nested with
      | 0 => some ([], rest.map Prod.fst)
      | nested + 1 => onward nested
    else onward nested

/-- **The outermost ternary** of a text: its first top-level question mark and the colon that
closes it. -/
def ternary? (cs : List Char) : Option Ternary := do
  let (condition, rest) ← breakAtTop '?' (marks cs)
  let (whenTrue, whenFalse) ← breakAtColon 0 rest
  return ⟨Text.trim condition, Text.trim whenTrue, Text.trim whenFalse⟩

theorem length_breakAtTop {c : Char} {ms : List (Char × Bool)} {before after}
    (h : breakAtTop c ms = some (before, after)) :
    before.length + after.length + 1 = ms.length := by
  induction ms generalizing before with
  | nil => simp [breakAtTop] at h
  | cons m ms ih =>
    obtain ⟨d, top⟩ := m
    simp only [breakAtTop] at h
    split at h
    · simp only [Option.some.injEq, Prod.mk.injEq] at h
      obtain ⟨rfl, rfl⟩ := h
      simp
    · simp only [Option.map_eq_some_iff] at h
      obtain ⟨⟨b, a⟩, hb, h⟩ := h
      simp only [Prod.mk.injEq] at h
      obtain ⟨rfl, rfl⟩ := h
      have := ih hb
      simp only [List.length_cons]
      omega

theorem length_breakAtColon {nested : Nat} {ms : List (Char × Bool)} {before after}
    (h : breakAtColon nested ms = some (before, after)) :
    before.length + after.length + 1 = ms.length := by
  induction ms generalizing nested before with
  | nil => simp [breakAtColon] at h
  | cons m ms ih =>
    obtain ⟨c, top⟩ := m
    have onward : ∀ n, (breakAtColon n ms).map (fun (b, a) => (c :: b, a)) = some (before, after) →
        before.length + after.length + 1 = (ms.length + 1) := by
      intro n hn
      simp only [Option.map_eq_some_iff] at hn
      obtain ⟨⟨b, a⟩, hb, hn⟩ := hn
      simp only [Prod.mk.injEq] at hn
      obtain ⟨rfl, rfl⟩ := hn
      have := ih hb
      simp only [List.length_cons]
      omega
    simp only [breakAtColon] at h
    simp only [List.length_cons]
    split at h
    · exact onward _ h
    · split at h
      · split at h
        · simp only [Option.some.injEq, Prod.mk.injEq] at h
          obtain ⟨rfl, rfl⟩ := h
          simp
        · exact onward _ h
      · exact onward _ h

/-- The parts of a ternary are shorter than its text. -/
theorem length_lt_of_ternary? {cs : List Char} {t : Ternary} (h : ternary? cs = some t) :
    t.condition.length < cs.length ∧ t.whenTrue.length < cs.length
      ∧ t.whenFalse.length < cs.length := by
  simp only [ternary?, Option.bind_eq_bind, Option.bind_eq_some_iff, Option.pure_def,
    Option.some.injEq] at h
  obtain ⟨⟨b, a⟩, h1, ⟨x, y⟩, h2, rfl⟩ := h
  have h1 := length_breakAtTop h1
  have h2 := length_breakAtColon h2
  have h0 : (marks cs).length = cs.length := by
    rw [← List.length_map Prod.fst, map_fst_marks]
  have hb := Text.length_trim_le b
  have hx := Text.length_trim_le x
  have hy := Text.length_trim_le y
  simp only at h1 h2 ⊢
  omega

/-! ## 4. Groups -/

/-- **The inside of a text that is one parenthesised group.**  The text is at the top level
nowhere before its last character, so `(a) == (b)` is no group. -/
def group? (cs : List Char) : Option (List Char) :=
  match cs with
  | '(' :: rest =>
    if rest.getLast? = some ')' ∧ ∀ m ∈ marks cs.dropLast, m.2 = false then
      some rest.dropLast
    else
      none
  | _ => none

theorem length_of_group? {cs inner : List Char} (h : group? cs = some inner) :
    inner.length + 2 = cs.length := by
  unfold group? at h
  split at h
  · next rest =>
    split at h
    · next hc =>
      obtain rfl : rest.dropLast = inner := by simpa using h
      have : rest ≠ [] := by rintro rfl; simp at hc
      have := List.length_pos_iff.mpr this
      simp only [List.length_dropLast, List.length_cons]
      omega
    · simp at h
  · simp at h

end FormLogic.Scan
