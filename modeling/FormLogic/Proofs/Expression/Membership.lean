import FormLogic.Proofs.Expression.Precedence

/-!
# Membership

`value in [item, ...]` asks whether one of the items loosely equals the value, an undefined item
counting as `null`.  The form is read off the end of a text by a pattern that knows no quotes: the
first place where blank characters, `in`, blank characters and a bracket stand, with no line
break before them and none between the bracket and the last character.  So the form is missed
when there is a line break in the value or among the items, and it is taken for another
membership when the value is a string that contains `in [` itself.  In every other case the
contents of the strings and the blank characters do not matter (`eval_membership`).
-/

namespace FormLogic

open Scan Text

/-! ## 1. Where a membership is read -/

theorem Text.trimStart_append {b : List Char} (hb : Blank b) {c : Char} (hc : isBlank c = false)
    (rest : List Char) : trimStart (b ++ (c :: rest)) = c :: rest := by
  rw [trimStart, List.dropWhile_append_of_pos hb]
  simp [hc]

namespace Shape

/-- What a membership has between its value and its items. -/
def membershipStart (b b' : Blanks) : List Char := b ++ (['i', 'n'] ++ (b' ++ ['[']))

/-- **A membership at a place of a text**, of the value before the place and of the items between
the brackets: on either side something, and no line break. -/
structure MembershipAt (cs value items : List Char) : Prop where
  text : ∃ b b' : Blanks, b.1 ≠ [] ∧ b'.1 ≠ [] ∧
    cs = value ++ (membershipStart b b' ++ (items ++ [']']))
  value_ne_nil : value ≠ []
  value_oneLine : '\n' ∉ value
  items_ne_nil : items ≠ []
  items_oneLine : '\n' ∉ items

section Tail

variable {b b' : Blanks}

theorem exists_membershipStart (hb : b.1 ≠ []) :
    ∃ c rest, membershipStart b b' = c :: rest ∧ isBlank c = true := by
  obtain ⟨b, hblank⟩ := b
  obtain ⟨c, b, rfl⟩ := List.exists_cons_of_ne_nil hb
  exact ⟨c, b ++ (['i', 'n'] ++ (b' ++ ['['])), rfl, hblank c List.mem_cons_self⟩

theorem not_mem_membershipStart {c : Char} (hc : isBlank c = false) (hno : c ∉ ['i', 'n', '[']) :
    c ∉ membershipStart b b' := by
  have hblanks : ∀ b : Blanks, c ∉ b.1 := fun b hmem => by simp [b.2 c hmem] at hc
  simp only [List.mem_cons, List.not_mem_nil, or_false, not_or] at hno
  simp [membershipStart, hblanks, hno]

theorem membershipTail?_start (hb : b.1 ≠ []) (hb' : b'.1 ≠ []) (rest : List Char) :
    membershipTail? (membershipStart b b' ++ rest) = enclosed? ']' rest := by
  obtain ⟨b, hblank⟩ := b
  obtain ⟨b', hblank'⟩ := b'
  obtain ⟨c, b, rfl⟩ := List.exists_cons_of_ne_nil hb
  obtain ⟨d, b', rfl⟩ := List.exists_cons_of_ne_nil hb'
  obtain ⟨hc, hb⟩ := List.forall_mem_cons.mp hblank
  obtain ⟨hd, hb'⟩ := List.forall_mem_cons.mp hblank'
  have hin : trimStart (b ++ ('i' :: 'n' :: d :: (b' ++ ('[' :: rest))))
      = 'i' :: 'n' :: d :: (b' ++ ('[' :: rest)) := trimStart_append hb (by decide) _
  have hbracket : trimStart (b' ++ ('[' :: rest)) = '[' :: rest :=
    trimStart_append hb' (by decide) rest
  simp [membershipStart, membershipTail?, hc, hd, hin, hbracket, dropPrefix?]

/-- **What the tail of a membership is.** -/
theorem membershipTail?_eq_some_iff {cs items : List Char} :
    membershipTail? cs = some items ↔
      ∃ b b' : Blanks, b.1 ≠ [] ∧ b'.1 ≠ [] ∧ cs = membershipStart b b' ++ (items ++ [']']) ∧
        items ≠ [] ∧ '\n' ∉ items := by
  constructor
  · intro h
    unfold membershipTail? at h
    split at h
    · next c rest =>
      split at h
      · simp at h
      · next hc =>
        split at h
        · next d rest' hin =>
          split at h
          · simp at h
          · next hd =>
            split at h
            · next rest'' hbracket =>
              obtain ⟨hitems, hne, hline⟩ := enclosed?_eq_some_iff.mp h
              obtain ⟨before, hbefore, hrest⟩ := exists_trimStart rest
              obtain ⟨before', hbefore', hrest'⟩ := exists_trimStart rest'
              rw [dropPrefix?_eq_some_iff.mp hin] at hrest
              rw [hbracket, hitems] at hrest'
              have hblank : Blank (c :: before) :=
                List.forall_mem_cons.mpr ⟨by simpa using hc, hbefore⟩
              have hblank' : Blank (d :: before') :=
                List.forall_mem_cons.mpr ⟨by simpa using hd, hbefore'⟩
              refine ⟨⟨_, hblank⟩, ⟨_, hblank'⟩, List.cons_ne_nil _ _, List.cons_ne_nil _ _, ?_,
                hne, hline⟩
              rw [hrest, hrest']
              simp [membershipStart]
            · simp at h
        · simp at h
    · simp at h
  · rintro ⟨b, b', hb, hb', rfl, hne, hline⟩
    rw [membershipTail?_start hb hb']
    exact enclosed?_eq_some_iff.mpr ⟨rfl, hne, hline⟩

end Tail

theorem membershipAt_of_beforeTail? {cs value items : List Char}
    (h : beforeTail? membershipTail? cs = some (value, items)) : MembershipAt cs value items := by
  obtain ⟨rest, rfl, hne, hline, hrest⟩ := exists_of_beforeTail? h
  obtain ⟨b, b', hb, hb', rfl, hitems, hline'⟩ := membershipTail?_eq_some_iff.mp hrest
  exact ⟨⟨b, b', hb, hb', rfl⟩, hne, hline, hitems, hline'⟩

theorem MembershipAt.getLast?_eq {cs value items : List Char} (h : MembershipAt cs value items) :
    cs.getLast? = some ']' := by
  obtain ⟨b, b', -, -, rfl⟩ := h.text
  rw [← List.append_assoc, ← List.append_assoc, List.getLast?_concat]

/-- Where there is a membership, it or an earlier one is found. -/
theorem MembershipAt.exists_beforeTail? {cs value items : List Char}
    (h : MembershipAt cs value items) :
    ∃ found, beforeTail? membershipTail? cs = some found ∧ found.1 <+: value := by
  obtain ⟨b, b', hb, hb', rfl⟩ := h.text
  exact exists_beforeTail?_of_append h.value_ne_nil h.value_oneLine
    (membershipTail?_eq_some_iff.mpr ⟨b, b', hb, hb', rfl, h.items_ne_nil, h.items_oneLine⟩)

end Shape

/-! ## 2. Where the membership of a text is read -/

/-- The text `value in [inside]`. -/
def membershipText (value : List Char) (gap gap' : Blanks) (inside : List Char) : List Char :=
  value ++ (Shape.membershipStart gap gap' ++ (inside ++ [']']))

/-- The text contains what a membership has between its value and its items. -/
def HidesMembershipStart (cs : List Char) : Prop :=
  ∃ (start : List Char) (b b' : Blanks) (rest : List Char), b.1 ≠ [] ∧ b'.1 ≠ [] ∧
    cs = start ++ (Shape.membershipStart b b' ++ rest)

theorem not_hidesMembershipStart_of_not_mem {cs : List Char} (h : '[' ∉ cs) :
    ¬ HidesMembershipStart cs := by
  rintro ⟨start, b, b', rest, -, -, rfl⟩
  simp [Shape.membershipStart] at h

theorem Shape.MembershipAt.hidesMembershipStart {cs value items : List Char}
    (h : Shape.MembershipAt cs value items) : HidesMembershipStart cs := by
  obtain ⟨b, b', hb, hb', htext⟩ := h.text
  exact ⟨value, b, b', items ++ [']'], hb, hb', htext⟩

/-- **The layouts in which a membership is recognized**: the value and the items on one line each,
and a value that hides a membership on another line than its items. -/
structure Recognized (value : List Char) (gap gap' : Blanks) (inside : List Char) : Prop where
  value_oneLine : '\n' ∉ value
  items_oneLine : '\n' ∉ inside
  hidden : HidesMembershipStart value → '\n' ∈ gap.1 ∨ '\n' ∈ gap'.1

namespace Literal

variable (l : Literal) {gap gap' : Blanks} {inside : List Char}

/-- A membership that is read from a place within an atom begins within it, so what follows the
atom stands between its brackets. -/
theorem hidesMembershipStart_of_membershipTail? {a b rest items : List Char}
    (htext : l.text = a ++ b) (hb : b ≠ [])
    (h : Shape.membershipTail? (b ++ rest) = some items) :
    HidesMembershipStart l.text ∧ '\n' ∉ rest := by
  obtain ⟨b₁, b₂, hb₁, hb₂, hrest, -, hline⟩ := Shape.membershipTail?_eq_some_iff.mp h
  rcases l.isWord_or_quoted with hword | ⟨quote, content, hquote, -, hquoted⟩
  · -- a word has no blank character to begin with
    obtain ⟨c, b, rfl⟩ := List.exists_cons_of_ne_nil hb
    obtain ⟨d, start, hstart, hd⟩ := Shape.exists_membershipStart hb₁
    have hc : isBlank c = false := isBlank_of_isWordPart (hword.parts c (by simp [htext]))
    rw [hstart, List.cons_append, List.cons_append, List.cons.injEq] at hrest
    rw [hrest.1, hd] at hc
    exact Bool.noConfusion hc
  · rcases List.append_eq_append_iff.mp hrest with ⟨tail, hstart, -⟩ | ⟨tail, rfl, hitems⟩
    · -- the closing quote is not part of what a membership begins with
      have hlast := congrArg List.getLast? htext
      rw [hquoted, ← List.dropLast_concat_getLast hb, ← List.cons_append, List.getLast?_concat,
        ← List.append_assoc, List.getLast?_concat, Option.some.injEq] at hlast
      have hmem : quote ∈ Shape.membershipStart b₁ b₂ := by
        rw [hstart, hlast]
        exact List.mem_append_left _ (List.getLast_mem hb)
      refine absurd hmem (Shape.not_mem_membershipStart ?_ ?_) <;>
        rcases eq_of_isQuote hquote with rfl | rfl <;> decide
    · refine ⟨⟨a, b₁, b₂, tail, hb₁, hb₂, htext⟩, fun hmem => hline ?_⟩
      have hall : '\n' ∈ items ++ [']'] := by
        rw [hitems]
        exact List.mem_append_right _ hmem
      simpa using hall

theorem not_hidesMembershipStart_of_isWord {cs : List Char} (h : IsWord cs) :
    ¬ HidesMembershipStart cs := by
  rintro ⟨start, b, b', rest, hb, -, rfl⟩
  obtain ⟨c, more, hstart, hc⟩ := @Shape.exists_membershipStart b b' hb
  have hpart := isBlank_of_isWordPart (h.parts c (by simp [hstart]))
  rw [hc] at hpart
  exact Bool.noConfusion hpart

variable (hgap : gap.1 ≠ []) (hgap' : gap'.1 ≠ [])

include hgap hgap'

/-- **A recognized membership is read where it stands.** -/
theorem beforeTail?_of_recognized (hinside : inside ≠ [])
    (h : Recognized l.text gap gap' inside) :
    Shape.beforeTail? Shape.membershipTail? (membershipText l.text gap gap' inside)
      = some (l.text, inside) := by
  have htail : Shape.membershipTail? (Shape.membershipStart gap gap' ++ (inside ++ [']']))
      = some inside :=
    Shape.membershipTail?_eq_some_iff.mpr ⟨gap, gap', hgap, hgap', rfl, hinside, h.items_oneLine⟩
  refine Shape.beforeTail?_append l.tight.ne_nil h.value_oneLine htail ?_
  intro a b htext _ hb
  rw [Option.eq_none_iff_forall_ne_some]
  intro items hread
  obtain ⟨hides, hline⟩ := l.hidesMembershipStart_of_membershipTail? htext hb hread
  rcases h.hidden hides with hmem | hmem <;> exact hline (by simp [Shape.membershipStart, hmem])

/-- A membership that is read where it stands is recognized. -/
theorem recognized_of_beforeTail? {items : List Char}
    (h : Shape.beforeTail? Shape.membershipTail? (membershipText l.text gap gap' inside)
      = some (l.text, items)) : Recognized l.text gap gap' inside := by
  obtain ⟨rest, htext, -, hvalue, hrest⟩ := Shape.exists_of_beforeTail? h
  obtain rfl := List.append_cancel_left htext
  rw [Shape.membershipTail?_start hgap hgap', Shape.enclosed?_eq_some_iff] at hrest
  obtain ⟨hinside, hne, hline⟩ := hrest
  obtain rfl := List.append_cancel_right hinside
  refine ⟨hvalue, hline, ?_⟩
  rintro ⟨start, b, b', rest, hb, hb', hhidden⟩
  refine Decidable.byContradiction fun hno => ?_
  obtain ⟨hno, hno'⟩ := not_or.mp hno
  -- otherwise the hidden membership comes first
  have hstart : start ≠ [] := by
    rintro rfl
    obtain ⟨c, more, hmore, hc⟩ := @Shape.exists_membershipStart b b' hb
    obtain ⟨d, text, hfirst, hd⟩ := l.tight.first
    rw [hfirst, hmore] at hhidden
    rw [(List.cons.inj hhidden).1, hc] at hd
    exact Bool.noConfusion hd
  rw [hhidden] at hvalue
  simp only [List.mem_append, not_or] at hvalue
  have hat : Shape.MembershipAt (membershipText l.text gap gap' inside) start
      (rest ++ (Shape.membershipStart gap gap' ++ inside)) := by
    refine ⟨⟨b, b', hb, hb', ?_⟩, hstart, hvalue.1, by simp [Shape.membershipStart], ?_⟩
    · rw [membershipText, hhidden]
      simp
    · simp [Shape.membershipStart, hvalue.2.2, hno, hno', hline]
  obtain ⟨found, hfound, hprefix⟩ := hat.exists_beforeTail?
  rw [h] at hfound
  obtain rfl := Option.some.inj hfound
  have hlength := hprefix.length_le
  rw [hhidden] at hlength
  simp only [List.length_append, Shape.membershipStart, List.length_cons] at hlength
  omega

end Literal

/-! ## 3. The form of the text -/

section Form

variable (l : Literal) (gap gap' : Blanks) {inside : List Char}

theorem membershipText_eq (value inside : List Char) :
    membershipText value gap gap' inside
      = value ++ ((gap ++ (['i', 'n'] ++ gap')) ++ ('[' :: (inside ++ [']']))) := by
  simp [membershipText, Shape.membershipStart]

theorem getLast?_membershipText (value inside : List Char) :
    (membershipText value gap gap' inside).getLast? = some ']' := by
  rw [membershipText, ← List.append_assoc, ← List.append_assoc, List.getLast?_concat]

theorem Literal.tight_membershipText (inside : List Char) :
    Tight (membershipText l.text gap gap' inside) := by
  rw [membershipText_eq]
  exact l.tight.append (Tight.of_ends (by decide) (by decide) inside) _

theorem Literal.head?_membershipText_ne (inside : List Char) {c : Char} (hc : Foreign [c]) :
    (membershipText l.text gap gap' inside).head? ≠ some c := by
  rw [membershipText, head?_append_of_tight l.tight]
  exact Literal.head?_ne hc List.mem_cons_self

theorem plain_between : Plain (gap ++ (['i', 'n'] ++ gap')) :=
  List.forall_mem_append.mpr ⟨Shape.plain_of_blank gap.2,
    List.forall_mem_append.mpr ⟨(by decide : Plain ['i', 'n']), Shape.plain_of_blank gap'.2⟩⟩

theorem Literal.balanced_membershipText (h : Balance.check inside = .ok ()) :
    Balance.check (membershipText l.text gap gap' inside) = .ok () := by
  rw [membershipText_eq]
  exact (l.closed.append ((Closed.of_plain (plain_between gap gap')).append
    (Closed.enclosed .square h))).balanced

theorem Literal.avoids_membershipText (h : Balance.check inside = .ok ()) {chars : List Char}
    (hforeign : Foreign chars) (hvisible : Visible chars) (hin : Shape.Apart chars ['i', 'n'])
    (hbracket : ']' ∉ chars) : Shape.Avoids chars (membershipText l.text gap gap' inside) := by
  have hbetween : Shape.Avoids chars (gap ++ (['i', 'n'] ++ gap')) :=
    (Shape.avoids_of_blank hvisible gap.2).append (Shape.closed_of_blank gap.2)
      (Shape.Avoids.append (Closed.of_plain (by decide)) (Shape.Avoids.of_plain (by decide) hin)
        (Shape.avoids_of_blank hvisible gap'.2))
  rw [membershipText_eq]
  exact (Literal.avoids hforeign).append l.closed
    (hbetween.append (Closed.of_plain (plain_between gap gap'))
      (Shape.Avoids.enclosed .square h hbracket))

/-- Nothing but a membership is read in such a text, if not of these operands. -/
theorem Literal.ofText_membershipText (h : Balance.check inside = .ok ()) :
    Shape.ofText (membershipText l.text gap gap' inside) =
      match Shape.beforeTail? Shape.membershipTail? (membershipText l.text gap gap' inside) with
      | some (value, items) => .membership (trim value) items
      | none => .operand := by
  have hlast : (membershipText l.text gap gap' inside).getLast? ≠ some ')' := by
    rw [getLast?_membershipText]
    decide
  exact Shape.ofText_of_no_operator
    (l.avoids_membershipText gap gap' h (by decide) (by decide) (by decide) (by decide))
    (l.head?_membershipText_ne gap gap' inside (by decide))
    (l.head?_membershipText_ne gap gap' inside (by decide)) hlast

/-- As an atom such a text is a variable. -/
theorem Literal.atom_membershipText (inside : List Char) :
    Atom.ofText (membershipText l.text gap gap' inside) = .path := by
  have hlast := getLast?_membershipText gap gap' l.text inside
  have hquoted : Atom.quoted? (membershipText l.text gap gap' inside) = none :=
    Atom.quoted?_of_getLast?_ne (by rw [hlast]; decide) (by rw [hlast]; decide)
  have hbracketed : Atom.bracketed? (membershipText l.text gap gap' inside) = none :=
    Atom.bracketed?_of_head?_ne (l.head?_membershipText_ne gap gap' inside (by decide))
  rw [Atom.ofText_of_mem (by decide : isWordPart ']' = false) (List.mem_of_getLast? hlast) hquoted,
    hbracketed]

theorem Literal.call_membershipText (inside : List Char) :
    Call.ofText? (membershipText l.text gap gap' inside) = none := by
  refine Call.ofText?_of_getLast?_ne ?_
  rw [getLast?_membershipText]
  decide

end Form

/-! ## 4. Evaluation -/

theorem Resolved.looselyEquals_string_self (s : String) :
    looselyEquals (some (.string s)) (some (.string s)) = true := by
  simp [looselyEquals, strictlyEquals, Value.same]

namespace Evaluator

variable (ev : Evaluator) {depth : Nat}

/-- What a membership makes of its value and its items. -/
def among (depth : Nat) (value items : List Char) : Evaluation := do
  let value ← ev.eval depth value
  let items ← Evaluation.collect ((Scan.items items).map (ev.atom depth))
  return some (.bool (items.any fun i => value.looselyEquals (some i.orNull)))

theorem among_literals (l : Literal) {items : List Literal} {text : List Char}
    (hitems : Joined [','] (items.map Literal.text) text) (b b' : Blanks)
    (hdepth : depth + 1 ≤ ev.options.maxDepth) :
    ev.among depth l.text (b ++ (text ++ b'))
      = .ok (some (.bool (items.any fun i =>
          (l.value ev.context).looselyEquals (some (i.value ev.context).orNull)))) := by
  have hvalues : (items.map Literal.text).map (ev.atom depth)
      = (items.map (Literal.value ev.context)).map .ok := by
    simp only [List.map_map]
    exact List.map_congr_left fun i _ => atom_literal ev (by omega) i
  rw [among, hitems.items_eq Literal.isArgument_of_mem, hvalues, Evaluation.collect_ok,
    eval_literal ev (by omega) l hdepth]
  simp only [bind, Except.bind, pure, Except.pure, List.any_map, Function.comp_def]

section Read

variable (l : Literal) {gap gap' before after : Blanks} {inside : List Char}
  (hbalanced : Balance.check inside = .ok ()) (hdepth : depth ≤ ev.options.maxDepth)

include hbalanced hdepth

theorem eval_membershipText :
    ev.eval depth (before ++ (membershipText l.text gap gap' inside ++ after)) =
      match Shape.beforeTail? Shape.membershipTail? (membershipText l.text gap gap' inside) with
      | some (value, items) => ev.among (depth + 1) (trim value) items
      | none => ev.operand (depth + 1) (membershipText l.text gap gap' inside) := by
  have htight := l.tight_membershipText gap gap' inside
  rw [eval_pad ev htight before.2 after.2, eval_of_tight ev hdepth htight,
    l.ofText_membershipText gap gap' hbalanced]
  cases Shape.beforeTail? Shape.membershipTail? (membershipText l.text gap gap' inside) with
  | none => rfl
  | some found => rfl

/-- In any other layout the text is taken for the membership of another value, if for any. -/
theorem eval_of_not_recognized (hgap : gap.1 ≠ []) (hgap' : gap'.1 ≠ [])
    (hdeeper : depth + 1 ≤ ev.options.maxDepth) (h : ¬ Recognized l.text gap gap' inside) :
    (∃ value found, value ≠ l.text ∧
      Shape.MembershipAt (membershipText l.text gap gap' inside) value found ∧
      ev.eval depth (before ++ (membershipText l.text gap gap' inside ++ after))
        = ev.among (depth + 1) (trim value) found) ∨
    ((¬ ∃ value found, Shape.MembershipAt (membershipText l.text gap gap' inside) value found) ∧
      ev.eval depth (before ++ (membershipText l.text gap gap' inside ++ after))
        = .ok (ev.context.resolve? (membershipText l.text gap gap' inside))) := by
  rw [eval_membershipText ev l hbalanced hdepth]
  cases hread : Shape.beforeTail? Shape.membershipTail?
      (membershipText l.text gap gap' inside) with
  | some found =>
    obtain ⟨value, found⟩ := found
    refine .inl ⟨value, found, ?_, Shape.membershipAt_of_beforeTail? hread, rfl⟩
    rintro rfl
    exact h (l.recognized_of_beforeTail? hgap hgap' hread)
  | none =>
    refine .inr ⟨?_, ?_⟩
    · rintro ⟨value, found, hat⟩
      obtain ⟨_, hfound, -⟩ := hat.exists_beforeTail?
      rw [hread] at hfound
      simp at hfound
    · simp only [operand_eq, l.call_membershipText gap gap' inside, atom_eq,
        (l.tight_membershipText gap gap' inside).trim_eq, l.atom_membershipText gap gap' inside]
      rw [if_neg (by omega)]
      rfl

end Read

/-- **Membership.**  Where the form is recognized, `value in [item, ...]` is true when one of the
items loosely equals the value, an undefined item read as `null`, and false otherwise: whatever
the strings contain, and whatever blank characters stand between the parts.  Where it is not, the
text is taken for a membership of another value, or for a variable. -/
theorem eval_membership (l : Literal) {items : List Literal} {joined : List Char}
    (hitems : Joined [','] (items.map Literal.text) joined) (b b' gap gap' before after : Blanks)
    (hgap : gap.1 ≠ []) (hgap' : gap'.1 ≠ []) (hdepth : depth + 2 ≤ ev.options.maxDepth) :
    let inside := b ++ (joined ++ b')
    let text := membershipText l.text gap gap' inside
    (Recognized l.text gap gap' inside →
      ev.eval depth (before ++ (text ++ after))
        = .ok (some (.bool (items.any fun i =>
            (l.value ev.context).looselyEquals (some (i.value ev.context).orNull))))) ∧
    (¬ Recognized l.text gap gap' inside →
      (∃ value found, value ≠ l.text ∧ Shape.MembershipAt text value found ∧
        ev.eval depth (before ++ (text ++ after)) = ev.among (depth + 1) (trim value) found) ∨
      ((¬ ∃ value found, Shape.MembershipAt text value found) ∧
        ev.eval depth (before ++ (text ++ after)) = .ok (ev.context.resolve? text))) ∧
    ev.tryEvaluate (String.ofList (before ++ (text ++ after))) = ev.eval 0 text := by
  intro inside text
  have hbalanced : Balance.check inside = .ok () := Shape.balanced_pad b.2
    (hitems.balanced (by decide) fun t ht => (Literal.isArgument_of_mem t ht).balanced) b'.2
  have hinside : inside ≠ [] := by
    have hjoined := (hitems.tight fun t ht => (Literal.isArgument_of_mem t ht).tight).ne_nil
    simp [inside, hjoined]
  refine ⟨fun h => ?_, eval_of_not_recognized ev l hbalanced (by omega) hgap hgap' (by omega), ?_⟩
  · rw [eval_membershipText ev l hbalanced (by omega),
      l.beforeTail?_of_recognized hgap hgap' hinside h]
    simp only [l.tight.trim_eq]
    exact among_literals ev l hitems b b' hdepth
  · exact tryEvaluate_of_tight ev (l.tight_membershipText gap gap' inside)
      (l.head?_membershipText_ne gap gap' inside (by decide))
      (l.balanced_membershipText gap gap' hbalanced) before after

/-- A string that hides a membership before a line break, and brackets and commas in strings. -/
theorem eval_membership_of_unusual_strings :
    let value : Literal := .string '"' "a in [b".toList rfl (by simp [IsQuotable])
    let item : Literal := .string '\'' ", ]".toList rfl (by simp [IsQuotable])
    let line : Blanks := ⟨['\n'], by decide⟩
    let space : Blanks := ⟨[' ', '\t'], by decide⟩
    let inside := item.text ++ ([' ', '\t'] ++ (',' :: value.text))
    Recognized value.text line space inside ∧
    (default : Evaluator).eval 0 (membershipText value.text line space inside)
      = .ok (some (.bool true)) := by
  intro value item line space inside
  have hrecognized : Recognized value.text line space inside :=
    ⟨by decide, by decide, fun _ => .inl (by decide)⟩
  have hitems : Joined [','] ([item, value].map Literal.text) inside :=
    .cons item.text space .none (.one value.text)
  have hread := (eval_membership default value hitems .none .none line space .none .none
    (by decide) (by decide) (by decide : 0 + 2 ≤ 64)).1
  simp only [List.nil_append, List.append_nil] at hread
  have hfound : ([item, value].any fun i =>
      (value.value (default : Evaluator).context).looselyEquals
        (some (i.value (default : Evaluator).context).orNull)) = true :=
    List.any_eq_true.mpr ⟨value, List.mem_cons_of_mem _ List.mem_cons_self,
      Resolved.looselyEquals_string_self _⟩
  exact ⟨hrecognized, by rw [hread hrecognized, hfound]⟩

/-- Of values and items that are undefined a membership is true. -/
theorem eval_membership_of_undefined {cs value item : List Char}
    (hdepth : depth + 2 ≤ ev.options.maxDepth)
    (hshape : Shape.ofText (trim cs) = .membership value item)
    (hitems : Scan.items item = [item]) (hitem : Atom.ofText (trim item) = .path ∧
      ev.context.resolve? (trim item) = none)
    (hvalue : Shape.ofText (trim value) = .operand ∧ Call.ofText? (trim value) = none ∧
      Atom.ofText (trim value) = .path ∧ ev.context.resolve? (trim value) = none) :
    ev.eval depth cs = .ok (some (.bool true)) := by
  have hvalue : ev.eval (depth + 1) value = .ok none := by
    obtain ⟨hform, hcall, hatom, hresolve⟩ := hvalue
    rw [eval_name ev hdepth hform hcall hatom, hresolve]
  have hitem : ev.atom (depth + 1) item = .ok none := by
    rw [atom_eq, if_neg (by omega), hitem.1, Atom.evaluate, hitem.2]
  rw [eval_eq, if_neg (by omega), hshape, Shape.evaluate, hvalue, hitems, List.map_singleton, hitem]
  rfl

/-- `"a in [b" in [null]` asks whether `"a` is among `b" in [null`, and `x in [null,` with `true]`
on the next line is a variable. -/
theorem not_eval_membership_of_all_layouts :
    (¬ ∀ (ev : Evaluator) (l : Literal) (items : List Literal) (joined : List Char)
        (b b' gap gap' : Blanks) (depth : Nat),
        ((∃ p, l = .path p) ∨ ∃ quote content hq h, l = .string quote content hq h) →
        Joined [','] (items.map Literal.text) joined → gap.1 ≠ [] → gap'.1 ≠ [] →
        depth + 2 ≤ ev.options.maxDepth →
        '\n' ∉ membershipText l.text gap gap' (b ++ (joined ++ b')) →
        ev.eval depth (membershipText l.text gap gap' (b ++ (joined ++ b')))
          = .ok (some (.bool (items.any fun i =>
              (l.value ev.context).looselyEquals (some (i.value ev.context).orNull))))) ∧
    (¬ ∀ (ev : Evaluator) (l : Literal) (items : List Literal) (joined : List Char)
        (b b' gap gap' : Blanks) (depth : Nat),
        ((∃ p, l = .path p) ∨ ∃ quote content hq h, l = .string quote content hq h) →
        Joined [','] (items.map Literal.text) joined → gap.1 ≠ [] → gap'.1 ≠ [] →
        depth + 2 ≤ ev.options.maxDepth →
        (∀ t ∈ (l :: items).map Literal.text, ¬ HidesMembershipStart t) →
        ev.eval depth (membershipText l.text gap gap' (b ++ (joined ++ b')))
          = .ok (some (.bool (items.any fun i =>
              (l.value ev.context).looselyEquals (some (i.value ev.context).orNull))))) := by
  let space : Blanks := ⟨[' '], by decide⟩
  constructor
  · intro h
    let value : Literal := .string '"' "a in [b".toList rfl (by simp [IsQuotable])
    let text := membershipText value.text space space ([] ++ (Literal.null.text ++ []))
    have hmeant := h default value [.null] Literal.null.text .none .none space space 0
      (.inr ⟨_, _, _, _, rfl⟩) (.one Literal.null.text) (by decide) (by decide) (by decide)
      (by decide)
    have hshape : Shape.ofText (trim text)
        = .membership "\"a".toList "b\" in [null".toList := by decide
    have hread : (default : Evaluator).eval 0 text = .ok (some (.bool true)) :=
      eval_membership_of_undefined default (by decide) hshape (by decide)
        ⟨by decide, rfl⟩ ⟨by decide, by decide, by decide, rfl⟩
    have htruth : (Except.ok (some (Value.bool true)) : Evaluation)
        = .ok (some (.bool false)) := hread.symm.trans hmeant
    simp at htruth
  · intro h
    let value : Literal := .path ⟨['x'], [], by decide, by decide⟩
    let line : Blanks := ⟨['\n'], by decide⟩
    have hwords : ∀ t ∈ [value, .null, .bool true].map Literal.text, ¬ HidesMembershipStart t := by
      intro t ht
      have hword : ∀ t ∈ [value, .null, .bool true].map Literal.text, IsWord t := by decide
      exact Literal.not_hidesMembershipStart_of_isWord (hword t ht)
    have hmeant := h default value [.null, .bool true] _ .none .none space space 0
      (.inl ⟨_, rfl⟩) (.cons _ .none line (.one _)) (by decide) (by decide) (by decide) hwords
    rw [eval_name default (by decide) (by decide) (by decide) (by decide)] at hmeant
    have hnothing : (Except.ok none : Evaluation) = .ok (some (.bool true)) := hmeant
    simp at hnothing

end Evaluator

end FormLogic
