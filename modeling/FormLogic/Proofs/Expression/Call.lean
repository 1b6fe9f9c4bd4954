import FormLogic.Proofs.Expression.Precedence

/-!
# Calls of arbitrary texts

A call of a known helper hands over the values of its arguments, whatever balanced texts these
are: literals with odd characters, calls, operators.  There is one exception.  The containment
form is read off the end of a text, in whatever brackets and quotes it stands, and it is tried
before calls; so a call in whose parentheses `.contains(` occurs, with something after it and all
on one line, is not evaluated as a call at all (`eval_call`).
-/

namespace FormLogic

open Scan Text

/-! ## 1. Where a containment is read -/

namespace Shape

/-- What a containment has after its collection. -/
def containmentStart : List Char := ['.', 'c', 'o', 'n', 't', 'a', 'i', 'n', 's', '(']

theorem containmentTail?_eq_some_iff {cs needle : List Char} :
    containmentTail? cs = some needle ↔
      cs = containmentStart ++ (needle ++ [')']) ∧ needle ≠ [] ∧ '\n' ∉ needle := by
  simp only [containmentTail?, Option.bind_eq_some_iff, enclosed?_eq_some_iff,
    dropPrefix?_eq_some_iff]
  constructor
  · rintro ⟨rest, hcs, rfl, h⟩
    exact ⟨hcs, h⟩
  · rintro ⟨hcs, h⟩
    exact ⟨_, hcs, rfl, h⟩

/-- A word before balanced text in parentheses is a containment or an operand. -/
theorem ofText_parenthesized_of_word {name inside : List Char} (hname : IsWord name)
    (h : Balance.check inside = .ok ()) :
    ofText (name ++ ('(' :: (inside ++ [')']))) =
      match beforeTail? containmentTail? (name ++ ('(' :: (inside ++ [')']))) with
      | some (collection, needle) => containment (Text.trim collection) (Text.trim needle)
      | none => operand := by
  have hprinted := Printed.parenthesized hname h
  have hlast : (name ++ ('(' :: (inside ++ [')']))).getLast? ≠ some ']' := by
    rw [← List.cons_append, ← List.append_assoc, List.getLast?_concat]
    decide
  have hbang : (name ++ ('(' :: (inside ++ [')']))).head? ≠ some '!' :=
    fun hm => hprinted.first '!' hm (by decide)
  have hparen : (name ++ ('(' :: (inside ++ [')']))).head? ≠ some '(' :=
    fun hm => hprinted.first '(' hm (by decide)
  rewrite [ofText_of_avoids (hprinted.avoids.mono (by decide)), negated?_of_head_ne hbang,
    group?_of_head_ne hparen, comparison?_eq_none (hprinted.avoids.mono (by decide)),
    beforeTail?_eq_none getLast?_of_membershipTail? hlast]
  rfl

end Shape

/-! ## 2. Arguments of any text -/

/-- The blank characters at the ends of a joined text's parts can be counted to its operators. -/
theorem Joined.trimmed {op text : List Char} {ts : List (List Char)} (h : Joined op ts text) :
    ∃ (b b' : Blanks) (inner : List Char), Joined op (ts.map trim) inner ∧
      text = b ++ (inner ++ b') := by
  induction h with
  | one t =>
    obtain ⟨before, after, hb, ha, ht⟩ := exists_trim t
    exact ⟨⟨before, hb⟩, ⟨after, ha⟩, trim t, .one _, ht⟩
  | cons t b₁ b₂ _ ih =>
    obtain ⟨before, after, hb, ha, ht⟩ := exists_trim t
    obtain ⟨b, b', inner, hinner, rfl⟩ := ih
    refine ⟨⟨before, hb⟩, b', _,
      .cons (trim t) ⟨after ++ b₁, ha.append b₁.2⟩ ⟨b₂ ++ b, b₂.2.append b.2⟩ hinner, ?_⟩
    conv => lhs; rw [ht]
    simp

theorem Arguments.trimmed {ts : List (List Char)} {inside : List Char} (h : Arguments ts inside) :
    Arguments (ts.map trim) inside := by
  cases h with
  | blank b => exact .blank b
  | list b b' hjoined =>
    obtain ⟨b₁, b₂, inner, hinner, rfl⟩ := hjoined.trimmed
    have h := Arguments.list ⟨b ++ b₁, b.2.append b₁.2⟩ ⟨b₂ ++ b', b₂.2.append b'.2⟩ hinner
    simpa using h

theorem isArgument_trim {t : List Char} (hblank : ¬ Blank t) (hbalanced : Balance.check t = .ok ())
    (hcomma : ',' ∉ topText t) : IsArgument (trim t) :=
  ⟨Shape.balanced_trim hbalanced, tight_trim (mt trim_eq_nil_iff.mp hblank),
    fun h => hcomma (Shape.topText_trim_subset t h)⟩

/-! ## 3. Calls -/

/-- The text of a call. -/
def Helper.callText (helper : Helper) (inside : List Char) : List Char :=
  helper.name.toList ++ ('(' :: (inside ++ [')']))

/-- **A containment hides in the arguments**: what it begins with, then something more, and no
line break before or after. -/
def HidesContainment (inside : List Char) : Prop :=
  ∃ start needle, inside = start ++ (Shape.containmentStart ++ needle) ∧ '\n' ∉ start ∧
    needle ≠ [] ∧ '\n' ∉ needle

theorem not_hidesContainment {inside : List Char} (h : ¬ Shape.containmentStart <:+: inside) :
    ¬ HidesContainment inside := by
  rintro ⟨start, needle, rfl, -⟩
  exact h ⟨start, needle, by simp⟩

namespace Helper

variable (helper : Helper) {inside : List Char}

/-- A call that is read as a containment has one hidden in its arguments. -/
theorem hidesContainment_of_beforeTail? {collection needle : List Char}
    (h : Shape.beforeTail? Shape.containmentTail? (helper.callText inside)
      = some (collection, needle)) :
    HidesContainment inside ∧
      helper.callText inside = collection ++ (Shape.containmentStart ++ (needle ++ [')'])) := by
  obtain ⟨rest, htext, -, hno, hrest⟩ := Shape.exists_of_beforeTail? h
  obtain ⟨rfl, hne, hneedle⟩ := Shape.containmentTail?_eq_some_iff.mp hrest
  refine ⟨?_, htext⟩
  have hopen : (helper.name.toList ++ ['(']) ++ inside
      = collection ++ (Shape.containmentStart ++ needle) := by
    have hlast : ((helper.name.toList ++ ['(']) ++ inside) ++ [')']
        = (collection ++ (Shape.containmentStart ++ needle)) ++ [')'] := by
      simpa [callText] using htext
    exact List.append_cancel_right hlast
  rcases List.append_eq_append_iff.mp hopen with ⟨start, rfl, hinside⟩ | ⟨tail, hname, htail⟩
  · exact ⟨start, needle, hinside, fun hm => hno (List.mem_append_right _ hm), hne, hneedle⟩
  · -- the name and the parenthesis have no point, so the containment begins after them
    cases tail with
    | nil => exact ⟨[], needle, by simpa using htail.symm, by simp, hne, hneedle⟩
    | cons c tail =>
      have hpoint : '.' ∈ helper.name.toList ++ ['('] := by
        rw [hname, ← (List.cons.inj htail).1]
        simp
      exact absurd hpoint (by simp [Path.not_mem_of_isIdentifier helper.isIdentifier_name])

/-- A call with a containment hidden in its arguments is read as a containment. -/
theorem exists_beforeTail?_of_hidesContainment (h : HidesContainment inside) :
    ∃ found, Shape.beforeTail? Shape.containmentTail? (helper.callText inside) = some found := by
  obtain ⟨start, needle, rfl, hno, hne, hneedle⟩ := h
  have hname : '\n' ∉ helper.name.toList := helper.isWord_name.not_mem (by decide)
  have htail := Shape.containmentTail?_eq_some_iff.mpr ⟨rfl, hne, hneedle⟩
  have hbefore : '\n' ∉ helper.name.toList ++ ('(' :: start) := by
    simp [hname, hno]
  obtain ⟨found, hfound, -⟩ := Shape.exists_beforeTail?_of_append
    (List.append_ne_nil_of_right_ne_nil _ (List.cons_ne_nil '(' start)) hbefore htail
  exact ⟨found, by simpa [callText] using hfound⟩

/-- Nothing but a containment is read in a call before the call itself. -/
theorem ofText_callText (h : Balance.check inside = .ok ()) :
    Shape.ofText (helper.callText inside) =
      match Shape.beforeTail? Shape.containmentTail? (helper.callText inside) with
      | some (collection, needle) => .containment (Text.trim collection) (Text.trim needle)
      | none => .operand :=
  Shape.ofText_parenthesized_of_word helper.isWord_name h

theorem ofText_callText_of_not_hides (h : Balance.check inside = .ok ())
    (hno : ¬ HidesContainment inside) : Shape.ofText (helper.callText inside) = .operand := by
  rw [helper.ofText_callText h]
  split
  · next hfound => exact absurd (helper.hidesContainment_of_beforeTail? hfound).1 hno
  · rfl

end Helper

namespace Evaluator

variable (ev : Evaluator) {depth : Nat}

/-- What a containment makes of its collection and its needle. -/
def contains (depth : Nat) (collection needle : List Char) : Evaluation := do
  let items ← ev.atom depth collection
  let value ← ev.eval depth needle
  match items with
  | some (.list items) =>
    return some (.bool (items.any fun i => Resolved.looselyEquals (some i) value))
  | _ => return some (.bool false)

/-- **A call composes the values of its arguments**, the first error among them being the result,
whatever balanced texts the arguments are: unless a containment hides in them, for then the call
is read as that containment, and its helper is not asked. -/
theorem eval_call (helper : Helper) {ts : List (List Char)} {inside : List Char}
    (harguments : Arguments ts inside) (hblank : ∀ t ∈ ts, ¬ Blank t)
    (hbalanced : ∀ t ∈ ts, Balance.check t = .ok ()) (hcomma : ∀ t ∈ ts, ',' ∉ topText t)
    (hdepth : depth ≤ ev.options.maxDepth) :
    (¬ HidesContainment inside →
      ev.eval depth (helper.callText inside) = do
        let args ← Evaluation.collect (ts.map (ev.eval (depth + 1)))
        return helper.apply args ev.context.user) ∧
    (HidesContainment inside →
      ∃ collection needle,
        helper.callText inside = collection ++ (Shape.containmentStart ++ (needle ++ [')'])) ∧
        ev.eval depth (helper.callText inside)
          = ev.contains (depth + 1) (trim collection) (trim needle)) := by
  have hinside := harguments.balanced hbalanced
  have htight : Tight (helper.callText inside) := (Printed.call helper hinside).tight
  rw [eval_of_tight ev hdepth htight, helper.ofText_callText hinside]
  constructor
  · intro hno
    have hread : Shape.beforeTail? Shape.containmentTail? (helper.callText inside) = none := by
      rw [Option.eq_none_iff_forall_ne_some]
      rintro ⟨collection, needle⟩ hfound
      exact hno (helper.hidesContainment_of_beforeTail? hfound).1
    have htrimmed : ∀ t ∈ ts.map trim, IsArgument t := by
      intro t ht
      obtain ⟨u, hu, rfl⟩ := List.mem_map.mp ht
      exact isArgument_trim (hblank u hu) (hbalanced u hu) (hcomma u hu)
    have hvalues : (ts.map trim).map (ev.eval (depth + 1)) = ts.map (ev.eval (depth + 1)) := by
      rw [List.map_map]
      exact List.map_congr_left fun t _ => eval_eq_of_trim_eq ev (trim_trim t) _
    rw [hread, Shape.evaluate, Helper.callText,
      operand_call ev helper harguments.trimmed htrimmed, hvalues]
  · intro hides
    obtain ⟨⟨collection, needle⟩, hfound⟩ := helper.exists_beforeTail?_of_hidesContainment hides
    refine ⟨collection, needle, (helper.hidesContainment_of_beforeTail? hfound).2, ?_⟩
    rw [hfound]
    rfl

/-- Literals with commas, brackets and quotes in them, and a call within the call. -/
theorem eval_call_of_unusual_arguments :
    let first : List Char := ['\'', ',', ' ', '(', '"', '\'']
    let second : List Char := ['l', 'e', 'n', '(', '"', 'x', ')', '"', ',', ' ', '1', ')', '\\']
    let inside := first ++ ([',', ' '] ++ second)
    (∀ t ∈ [first, second], ¬ Blank t) ∧
    (∀ t ∈ [first, second], Balance.check t = .ok ()) ∧
    (∀ t ∈ [first, second], ',' ∉ topText t) ∧
    ¬ HidesContainment inside ∧
    (default : Evaluator).eval 0 (Helper.concat.callText inside) = do
      let args ← Evaluation.collect ([first, second].map ((default : Evaluator).eval 1))
      return Helper.concat.apply args (default : Evaluator).context.user := by
  intro first second inside
  have harguments : Arguments [first, second] inside := by
    have h := Arguments.list .none .none
      (Joined.cons first .none ⟨[' '], by decide⟩ (Joined.one second))
    simpa [inside] using h
  have hblank : ∀ t ∈ [first, second], ¬ Blank t := by decide
  have hbalanced : ∀ t ∈ [first, second], Balance.check t = .ok () :=
    List.forall_mem_cons.mpr ⟨rfl, List.forall_mem_singleton.mpr rfl⟩
  have hcomma : ∀ t ∈ [first, second], ',' ∉ topText t := by decide
  have hno : ¬ HidesContainment inside := not_hidesContainment (by decide)
  exact ⟨hblank, hbalanced, hcomma, hno,
    (eval_call default .concat harguments hblank hbalanced hcomma (Nat.zero_le _)).1 hno⟩

/-- A containment in a name of nothing is false, when the needle is such a name too. -/
theorem eval_containment_of_undefined {cs collection needle : List Char}
    (hdepth : depth + 2 ≤ ev.options.maxDepth)
    (hshape : Shape.ofText (trim cs) = .containment collection needle)
    (hcollection : Atom.ofText (trim collection) = .path ∧
      ev.context.resolve? (trim collection) = none)
    (hneedle : Shape.ofText (trim needle) = .operand ∧ Call.ofText? (trim needle) = none ∧
      Atom.ofText (trim needle) = .path ∧ ev.context.resolve? (trim needle) = none) :
    ev.eval depth cs = .ok (some (.bool false)) := by
  have hitems : ev.atom (depth + 1) collection = .ok none := by
    rw [atom_eq, if_neg (by omega), hcollection.1, Atom.evaluate, hcollection.2]
  have hvalue : ev.eval (depth + 1) needle = .ok none := by
    obtain ⟨hform, hcall, hatom, hresolve⟩ := hneedle
    rw [eval_name ev hdepth hform hcall hatom, hresolve]
  rw [eval_eq, if_neg (by omega), hshape, Shape.evaluate, hitems, hvalue]
  rfl

/-- `isNotEmpty(tags.contains(tag))` asks whether `isNotEmpty(tags` contains `tag)`. -/
theorem not_eval_call_of_hidden_containment :
    ¬ ∀ (ev : Evaluator) (helper : Helper) (ts : List (List Char)) (inside : List Char)
        (depth : Nat), Arguments ts inside →
        (∀ t ∈ ts, ¬ Blank t ∧ Balance.check t = .ok () ∧ ',' ∉ topText t) →
        depth ≤ ev.options.maxDepth →
        ev.eval depth (helper.callText inside) = do
          let args ← Evaluation.collect (ts.map (ev.eval (depth + 1)))
          return helper.apply args ev.context.user := by
  intro h
  let argument : List Char := "tags.contains(tag)".toList
  have harguments : Arguments [argument] argument := by
    have h := Arguments.list .none .none (Joined.one argument)
    simpa using h
  have hcall := h default .isNotEmpty [argument] argument 0 harguments
    (List.forall_mem_singleton.mpr ⟨by decide, rfl, by decide⟩) (Nat.zero_le _)
  have hargument : (default : Evaluator).eval 1 argument = .ok (some (.bool false)) :=
    eval_containment_of_undefined default (by decide)
      (by decide : Shape.ofText (trim argument) = .containment "tags".toList "tag".toList)
      ⟨by decide, rfl⟩ ⟨by decide, by decide, by decide, rfl⟩
  have houter : (default : Evaluator).eval 0 (Helper.isNotEmpty.callText argument)
      = .ok (some (.bool false)) :=
    eval_containment_of_undefined default (by decide)
      (by decide : Shape.ofText (trim (Helper.isNotEmpty.callText argument))
        = .containment "isNotEmpty(tags".toList "tag)".toList)
      ⟨by decide, rfl⟩ ⟨by decide, by decide, by decide, rfl⟩
  rw [houter, List.map_singleton, hargument] at hcall
  -- the helper would say that `false` is a value
  have htruth : (Except.ok (some (Value.bool false)) : Evaluation)
      = .ok (some (.bool true)) := hcall
  simp at htruth

end Evaluator

end FormLogic
