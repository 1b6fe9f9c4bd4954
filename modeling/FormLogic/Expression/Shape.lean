import FormLogic.Expression.Comparison
import FormLogic.Scan.Split

/-!
# The shape of an expression

A text is never compiled.  `Shape.ofText` decides which form of the grammar the whole text has,
from the loosest binding form to the tightest, and hands out the texts of its parts; what none
of the forms fits is an operand.  Every part is shorter than the text.
-/

namespace FormLogic

/-- **The form of a text and the texts of its parts.** -/
inductive Shape where
  /-- `condition ? whenTrue : whenFalse` -/
  | ternary (parts : Scan.Ternary)
  /-- `primary ?? fallback` -/
  | fallback (primary fallback : List Char)
  /-- `a || b || ...` -/
  | disjunction (branches : List (List Char))
  /-- `a && b && ...` -/
  | conjunction (branches : List (List Char))
  /-- `!operand`, or `!(operand)` -/
  | negation (operand : List Char)
  /-- `(inner)` -/
  | group (inner : List Char)
  /-- `left op right` -/
  | comparison (op : Comparison) (left right : List Char)
  /-- `value in [items]` -/
  | membership (value items : List Char)
  /-- `collection.contains(needle)` -/
  | containment (collection needle : List Char)
  /-- A call, a literal or a variable. -/
  | operand
deriving DecidableEq, Repr

namespace Shape

/-! ## 1. The tail forms

Membership and containment are read off the end of a text: the first place, after at least one
character and before any line feed, at which the rest of the text has the right form. -/

/-- The inside of a text that ends in `close`: not empty, and without a line feed. -/
def enclosed? (close : Char) (cs : List Char) : Option (List Char) := do
  let inside ← Text.dropLast? close cs
  if inside.isEmpty || inside.contains '\n' then none else some inside

/-- Blank characters, `in`, blank characters, `[`, the items and `]`. -/
def membershipTail? (cs : List Char) : Option (List Char) :=
  match cs with
  | c :: rest =>
    if !Text.isBlank c then none
    else match Text.dropPrefix? ['i', 'n'] (Text.trimStart rest) with
      | some (d :: rest) =>
        if !Text.isBlank d then none
        else match Text.trimStart rest with
          | '[' :: rest => enclosed? ']' rest
          | _ => none
      | _ => none
  | [] => none

/-- `.contains(`, the needle and `)`. -/
def containmentTail? (cs : List Char) : Option (List Char) :=
  (Text.dropPrefix? ['.', 'c', 'o', 'n', 't', 'a', 'i', 'n', 's', '('] cs).bind (enclosed? ')')

/-- The text before the first place where `tail?` reads the rest, and what it reads there. -/
def beforeTail? (tail? : List Char → Option (List Char)) :
    List Char → Option (List Char × List Char)
  | [] => none
  | c :: rest =>
    if c = '\n' then none
    else match tail? rest with
      | some inside => some ([c], inside)
      | none => (beforeTail? tail? rest).map fun (before, inside) => (c :: before, inside)

/-! ## 2. The forms in order -/

/-- The first comparison operator that splits a text into exactly two sides. -/
def comparison? (cs : List Char) : Option (Comparison × List Char × List Char) :=
  Comparison.all.findSome? fun op =>
    (Scan.sides? op.symbol cs).map fun (left, right) => (op, Text.trim left, Text.trim right)

/-- A leading exclamation mark that does not belong to `!=`. -/
def negated? : List Char → Option (List Char)
  | '!' :: '=' :: _ => none
  | '!' :: rest =>
    let operand := Text.trim rest
    some ((Scan.group? operand).getD operand)
  | _ => none

/-- The pieces of a text that an operator cuts. -/
def branches? (op cs : List Char) : Option (List (List Char)) :=
  let pieces := Scan.split op cs
  if 1 < pieces.length then some pieces else none

/-- **The form of a trimmed text**, the loosest binding one that fits. -/
def ofText (cs : List Char) : Shape :=
  match Scan.ternary? cs with
  | some parts => ternary parts
  | none =>
  match Scan.sides? ['?', '?'] cs with
  | some (primary, other) => fallback primary other
  | none =>
  match branches? ['|', '|'] cs with
  | some branches => disjunction branches
  | none =>
  match branches? ['&', '&'] cs with
  | some branches => conjunction branches
  | none =>
  match negated? cs with
  | some inner => negation inner
  | none =>
  match Scan.group? cs with
  | some inner => group inner
  | none =>
  match comparison? cs with
  | some (op, left, right) => comparison op left right
  | none =>
  match beforeTail? membershipTail? cs with
  | some (value, items) => membership (Text.trim value) items
  | none =>
  match beforeTail? containmentTail? cs with
  | some (collection, needle) => containment (Text.trim collection) (Text.trim needle)
  | none => operand

/-- The texts of the parts. -/
def parts : Shape → List (List Char)
  | ternary t => [t.condition, t.whenTrue, t.whenFalse]
  | fallback p f => [p, f]
  | disjunction bs => bs
  | conjunction bs => bs
  | negation o => [o]
  | group i => [i]
  | comparison _ l r => [l, r]
  | membership v is => [v, is]
  | containment c n => [c, n]
  | operand => []

/-! ## 3. Parts are shorter -/

theorem length_lt_of_enclosed? {close : Char} {cs inside : List Char}
    (h : enclosed? close cs = some inside) : inside.length < cs.length := by
  simp only [enclosed?, Option.bind_eq_bind, Option.bind_eq_some_iff] at h
  obtain ⟨x, hx, h⟩ := h
  split at h
  · simp at h
  · obtain rfl : x = inside := by simpa using h
    have := Text.length_of_dropLast? hx
    omega

theorem length_lt_of_membershipTail? {cs inside : List Char}
    (h : membershipTail? cs = some inside) : inside.length < cs.length := by
  unfold membershipTail? at h
  split at h
  · next c rest =>
    split at h
    · simp at h
    · split at h
      · next d rest' hp =>
        split at h
        · simp at h
        · split at h
          · next rest'' ht =>
            have h1 := length_lt_of_enclosed? h
            have h2 := Text.length_trimStart_le rest'
            rw [ht] at h2
            have h3 := Text.length_of_dropPrefix? hp
            have h4 := Text.length_trimStart_le rest
            simp only [List.length_cons] at h2 h3 ⊢
            omega
          · simp at h
      · simp at h
  · simp at h

theorem length_lt_of_containmentTail? {cs inside : List Char}
    (h : containmentTail? cs = some inside) : inside.length < cs.length := by
  simp only [containmentTail?, Option.bind_eq_some_iff] at h
  obtain ⟨rest, h1, h2⟩ := h
  have h1 := Text.length_of_dropPrefix? h1
  have h2 := length_lt_of_enclosed? h2
  omega

theorem length_lt_of_beforeTail? {tail? : List Char → Option (List Char)}
    (htail : ∀ {cs inside}, tail? cs = some inside → inside.length < cs.length)
    {cs before inside : List Char} (h : beforeTail? tail? cs = some (before, inside)) :
    before.length < cs.length ∧ inside.length < cs.length := by
  induction cs generalizing before with
  | nil => simp [beforeTail?] at h
  | cons c rest ih =>
    simp only [beforeTail?] at h
    split at h
    · simp at h
    · split at h
      · next hin =>
        simp only [Option.some.injEq, Prod.mk.injEq] at h
        obtain ⟨rfl, rfl⟩ := h
        have := htail hin
        simp only [List.length_cons, List.length_nil]
        omega
      · simp only [Option.map_eq_some_iff] at h
        obtain ⟨⟨b, i⟩, hb, h⟩ := h
        simp only [Prod.mk.injEq] at h
        obtain ⟨rfl, rfl⟩ := h
        have := ih hb
        simp only [List.length_cons]
        omega

theorem length_lt_of_negated? {cs inner : List Char} (h : negated? cs = some inner) :
    inner.length < cs.length := by
  unfold negated? at h
  split at h
  · simp at h
  · next rest _ =>
    simp only [Option.some.injEq] at h
    subst h
    have h1 := Text.length_trim_le rest
    simp only [List.length_cons]
    cases hg : Scan.group? (Text.trim rest) with
    | none => simp only [Option.getD_none]; omega
    | some g =>
      have := Scan.length_of_group? hg
      simp only [Option.getD_some]
      omega
  · simp at h

theorem length_lt_of_comparison? {cs l r : List Char} {op : Comparison}
    (h : comparison? cs = some (op, l, r)) : l.length < cs.length ∧ r.length < cs.length := by
  obtain ⟨o, -, h⟩ := List.exists_of_findSome?_eq_some h
  simp only [Option.map_eq_some_iff] at h
  obtain ⟨⟨a, b⟩, hs, h⟩ := h
  simp only [Prod.mk.injEq] at h
  obtain ⟨-, rfl, rfl⟩ := h
  have := Scan.length_lt_of_sides? hs
  have h1 := Text.length_trim_le a
  have h2 := Text.length_trim_le b
  omega

theorem length_lt_of_branches? {op cs p : List Char} {bs : List (List Char)}
    (h : branches? op cs = some bs) (hp : p ∈ bs) : p.length < cs.length := by
  simp only [branches?] at h
  split at h
  · next hcut =>
    obtain rfl : Scan.split op cs = bs := by simpa using h
    exact Scan.length_lt_of_mem_split hp hcut
  · simp at h

/-- **Every part is shorter than the text**, so evaluating parts ends. -/
theorem length_lt_of_mem_parts {cs p : List Char} (h : p ∈ (ofText cs).parts) :
    p.length < cs.length := by
  unfold ofText at h
  split at h
  · next ht =>
    have := Scan.length_lt_of_ternary? ht
    simp only [parts, List.mem_cons, List.not_mem_nil, or_false] at h
    rcases h with rfl | rfl | rfl <;> omega
  split at h
  · next ht =>
    have := Scan.length_lt_of_sides? ht
    simp only [parts, List.mem_cons, List.not_mem_nil, or_false] at h
    rcases h with rfl | rfl <;> omega
  split at h
  · next ht => exact length_lt_of_branches? ht h
  split at h
  · next ht => exact length_lt_of_branches? ht h
  split at h
  · next ht =>
    simp only [parts, List.mem_cons, List.not_mem_nil, or_false] at h
    subst h
    exact length_lt_of_negated? ht
  split at h
  · next ht =>
    have := Scan.length_of_group? ht
    simp only [parts, List.mem_cons, List.not_mem_nil, or_false] at h
    subst h
    omega
  split at h
  · next ht =>
    have := length_lt_of_comparison? ht
    simp only [parts, List.mem_cons, List.not_mem_nil, or_false] at h
    rcases h with rfl | rfl <;> omega
  split at h
  · next v is ht =>
    have := length_lt_of_beforeTail? length_lt_of_membershipTail? ht
    have hv := Text.length_trim_le v
    simp only [parts, List.mem_cons, List.not_mem_nil, or_false] at h
    rcases h with rfl | rfl <;> omega
  split at h
  · next c n ht =>
    have := length_lt_of_beforeTail? length_lt_of_containmentTail? ht
    have hc := Text.length_trim_le c
    have hn := Text.length_trim_le n
    simp only [parts, List.mem_cons, List.not_mem_nil, or_false] at h
    rcases h with rfl | rfl <;> omega
  · simp [parts] at h

/-- The same for a text whose ends are still to be trimmed. -/
theorem length_lt_of_part {cs p : List Char} {s : Shape} (h : ofText (Text.trim cs) = s)
    (hp : p ∈ s.parts) : p.length < cs.length := by
  subst h
  exact Nat.lt_of_lt_of_le (length_lt_of_mem_parts hp) (Text.length_trim_le cs)

end Shape

end FormLogic
