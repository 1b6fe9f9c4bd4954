import FormLogic.Proofs.Expression.Composition
import FormLogic.Proofs.Expression.Precedence

/-!
# A fallback beside a ternary

The grammar puts `??` between the ternary and the connectives: a fallback in the condition or in
a branch of a ternary should need no parentheses.  It does.  The search for the colon of a
ternary takes either character of `??` for a question mark that waits for a colon of its own, so
it finds no ternary beside a fallback, and the text is cut at the `??` first:
`p ?? q ? a : b` is `p ?? (q ? a : b)`, and `c ? p ?? q : b` is `(c ? p) ?? (q : b)`.
-/

namespace FormLogic

open Scan Text

/-! ## 1. The operators and what stands between them -/

/-- The text `a op b`. -/
def spaced (op a b : List Char) : List Char := a ++ (' ' :: (op ++ (' ' :: b)))

/-- Balanced text in which neither a ternary nor a fallback is seen. -/
structure Uncut (cs : List Char) : Prop where
  balanced : Balance.check cs = .ok ()
  avoids : Shape.Avoids [':', '?'] cs

/-- Closed text between operators that reads like `cs`. -/
structure Slot (cs slot : List Char) : Prop where
  closed : Closed slot
  avoids : Shape.Avoids [':', '?'] slot
  trim_eq : trim slot = trim cs

namespace Slot

variable {cs slot : List Char}

theorem question (h : Slot cs slot) : '?' ∉ topText slot := h.avoids '?' (by decide)

theorem colon (h : Slot cs slot) : ':' ∉ topText slot := h.avoids ':' (by decide)

theorem transparent (h : Slot cs slot) : Transparent slot :=
  Transparent.of_not_mem h.question h.colon

/-- None is seen in the texts on both sides of a colon either. -/
theorem question_append_colon (h : Slot cs slot) {r : List Char}
    (hr : Shape.Avoids [':', '?'] r) : '?' ∉ topText (slot ++ (':' :: r)) := by
  have hcolon : Shape.Avoids ['?'] [':'] := by decide
  have hafter : Shape.Avoids ['?'] (':' :: r) :=
    hcolon.append (Closed.of_plain (by decide)) (hr.mono (by decide))
  exact (h.avoids.mono (by decide)).append h.closed hafter '?' (by decide)

theorem head?_ne (h : Slot cs slot) : slot.head? ≠ some '?' := fun hhead =>
  h.question (mem_topText_of_head? (by decide) hhead)

end Slot

namespace Uncut

variable {cs before slot : List Char}

/-- With a blank at its end even a text that ends in a backslash is closed. -/
theorem slot_of_append (h : Uncut cs) (hb : Blank before) (heq : cs ++ [' '] = before ++ slot) :
    Slot cs slot := by
  have hspace : Blank [' '] := by decide
  have hplain := Shape.plain_of_blank hb
  have hbalanced : Balance.check (before ++ slot) = .ok () := by
    rw [← heq]
    exact Shape.balanced_pad Blank.nil h.balanced hspace
  have havoids : Shape.Avoids [':', '?'] (before ++ slot) := by
    rw [← heq]
    exact Shape.avoids_pad (by decide) Blank.nil h.balanced h.avoids hspace
  have hunescaped : escapedAfter false (before ++ slot) = false := by
    rw [← heq]
    simp [escapedAfter]
  rw [escapedAfter_append, escapedAfter_of_plain hplain] at hunescaped
  refine ⟨⟨?_, hunescaped⟩, ?_, ?_⟩
  · exact balanced_of_plain_around (b := []) hplain (List.forall_mem_nil _)
      (by simpa using hbalanced)
  · intro c hc hmem
    have hsub := topText_subset_of_plain_before (b := []) hplain hmem
    exact havoids c hc (by simpa using hsub)
  · refine trim_eq_of_pad_eq hb Blank.nil Blank.nil hspace ?_
    simpa using heq.symm

theorem slot_between (h : Uncut cs) : Slot cs (' ' :: (cs ++ [' '])) := by
  have hright : Slot cs (cs ++ [' ']) := h.slot_of_append Blank.nil rfl
  have hspace : Blank [' '] := by decide
  refine ⟨(Shape.closed_of_blank hspace).append hright.closed, ?_, trim_pad hspace cs hspace⟩
  exact Shape.avoids_pad (by decide) hspace h.balanced h.avoids hspace

/-- What is left of the last text when it is trimmed at its end. -/
theorem avoids_of_append {after : List Char} (h : Uncut cs) (heq : ' ' :: cs = slot ++ after) :
    Shape.Avoids [':', '?'] slot := by
  have havoids : Shape.Avoids [':', '?'] (slot ++ after) := by
    rw [← heq]
    simpa using Shape.avoids_pad (by decide) (by decide : Blank [' ']) h.balanced h.avoids Blank.nil
  intro c hc hmem
  have hsub := topText_subset_of_plain_before (a := []) (b := after) (fun _ h => nomatch h) hmem
  exact havoids c hc (by simpa using hsub)

end Uncut

/-! ## 2. The forms of the texts -/

namespace Shape

section Forms

variable {cs ds es l m n r : List Char}

/-- The second question mark of the fallback waits for a colon too, so the colon is not that of
the first. -/
theorem ternary?_of_fallback_before (hl : Slot cs l) (hm : Slot ds m) (hn : Slot es n)
    (hr : Avoids [':', '?'] r) :
    ternary? (l ++ (['?', '?'] ++ (m ++ ('?' :: (n ++ (':' :: r)))))) = none := by
  have hcolon := hr ':' (by decide)
  rw [mem_topText] at hcolon
  refine ternary?_eq_none hl.closed hl.question ?_
  show breakAtColon 0 (marks ('?' :: (m ++ ('?' :: (n ++ (':' :: r)))))) = none
  rw [marks_cons_of_plain (by decide), marks_ternary hm.closed.balanced
    hn.closed.balanced]
  simp [breakAtColon, hm.transparent _ _, hn.transparent _ _, breakAtColon_eq_none hcolon]

/-- The same with the fallback in the branch. -/
theorem ternary?_of_fallback_within (hl : Slot cs l) (hm : Slot ds m) (hn : Slot es n)
    (hr : Avoids [':', '?'] r) :
    ternary? (l ++ ('?' :: (m ++ (['?', '?'] ++ (n ++ (':' :: r)))))) = none := by
  have hcolon := hr ':' (by decide)
  rw [mem_topText] at hcolon
  refine ternary?_eq_none hl.closed hl.question ?_
  have hmarks : marks (['?', '?'] ++ (n ++ (':' :: r)))
      = ('?', true) :: ('?', true) :: (marks n ++ ((':', true) :: marks r)) := by
    rw [List.cons_append, List.singleton_append, marks_cons_of_plain (by decide),
      marks_cons_of_plain (by decide), marks_append hn.closed, marks_cons_of_plain (by decide)]
  rw [marks_append hm.closed, hmarks]
  simp [breakAtColon, hm.transparent _ _, hn.transparent _ _, breakAtColon_eq_none hcolon]

theorem ofText_fallback_before (hl : Slot cs l) (hm : Slot ds m) (hn : Slot es n)
    (hr : Avoids [':', '?'] r) :
    ofText (l ++ (['?', '?'] ++ (m ++ ('?' :: (n ++ (':' :: r))))))
      = .fallback l (m ++ ('?' :: (n ++ (':' :: r)))) := by
  have hhead : ∀ c ∈ (n ++ (':' :: r)).head?, c ∉ ['?', '?'] := by
    intro c hc
    have hne := hn.head?_ne
    cases n with
    | nil =>
      obtain rfl : ':' = c := by simpa using hc
      decide
    | cons d n =>
      obtain rfl : d = c := by simpa using hc
      simpa using hne
  have hwhole : split ['?', '?'] (m ++ ('?' :: (n ++ (':' :: r))))
      = [m ++ ('?' :: (n ++ (':' :: r)))] :=
    split_of_not_infix hm.closed.balanced hm.question (List.cons_ne_nil '?' []) (by decide)
      (by decide) hhead (hn.question_append_colon hr)
  have hsides : sides? ['?', '?'] (l ++ (['?', '?'] ++ (m ++ ('?' :: (n ++ (':' :: r))))))
      = some (l, m ++ ('?' :: (n ++ (':' :: r)))) := by
    simp only [sides?, split_append (by decide : Plain ['?', '?']) hl.closed.balanced hl.question,
      hwhole]
  simp only [ofText, ternary?_of_fallback_before hl hm hn hr, hsides]

theorem ofText_fallback_within (hl : Slot cs l) (hm : Slot ds m) (hne : m ≠ []) (hn : Slot es n)
    (hr : Avoids [':', '?'] r) :
    ofText (l ++ ('?' :: (m ++ (['?', '?'] ++ (n ++ (':' :: r))))))
      = .fallback (l ++ ('?' :: m)) (n ++ (':' :: r)) := by
  have hhead : ∀ c ∈ (m ++ (['?', '?'] ++ (n ++ (':' :: r)))).head?, c ∉ ['?', '?'] := by
    intro c hc
    have hquestion := hm.head?_ne
    obtain ⟨d, m, rfl⟩ := List.exists_cons_of_ne_nil hne
    obtain rfl : d = c := by simpa using hc
    simpa using hquestion
  have hcut : split ['?', '?'] (l ++ ('?' :: (m ++ (['?', '?'] ++ (n ++ (':' :: r))))))
      = [l ++ ('?' :: m), n ++ (':' :: r)] := by
    have hmiddle := split_append_middle hl.closed.balanced hl.question (List.cons_ne_nil '?' [])
      (by decide) (by decide : ¬ ['?', '?'] <:+: ['?']) hhead
    rw [split_append (by decide : Plain ['?', '?']) hm.closed.balanced hm.question,
      split_of_not_mem (hn.question_append_colon hr)] at hmiddle
    exact hmiddle
  simp only [ofText, ternary?_of_fallback_within hl hm hn hr, sides?, hcut]

end Forms

end Shape

/-! ## 3. Evaluation -/

namespace Evaluator

variable (ev : Evaluator) (depth : Nat) {c p q a b : List Char}

/-- A text is evaluated by the form that it has once the blank characters at its ends are taken
off, which reach no further than to the tight text in its middle. -/
theorem eval_around {middle : List Char} (h : Tight middle) (cs ds : List Char)
    {outcome : Evaluation}
    (hcut : ev.options.maxDepth < depth → outcome = .error (.depthExceeded ev.options.maxDepth))
    (hform : ∀ before cs' ds' after, Blank before → Blank after → cs = before ++ cs' →
      ds = ds' ++ after →
      (Shape.ofText (cs' ++ (middle ++ ds'))).evaluate (ev.eval (depth + 1))
        (ev.operand (depth + 1)) (ev.atom (depth + 1)) (cs' ++ (middle ++ ds')) = outcome) :
    ev.eval depth (cs ++ (middle ++ ds)) = outcome := by
  obtain ⟨before, cs', ds', after, hb, ha, hcs, hds, htight⟩ := exists_tight_append h cs ds
  rw [← eval_form ev depth htight hcut (hform before cs' ds' after hb ha hcs hds),
    ← eval_pad ev htight hb ha, hcs, hds]
  simp

/-- A ternary whose condition and first branch neither operator is seen in; the other branch may be
any text. -/
theorem eval_ternary_of_uncut (hc : Uncut c) (ha : Uncut a) (b : List Char) :
    ev.eval depth (spaced ['?'] c (spaced [':'] a b)) = (do
      if (← ev.eval (depth + 1) c).toBoolean then ev.eval (depth + 1) a
      else ev.eval (depth + 1) b) := by
  have htext : spaced ['?'] c (spaced [':'] a b)
      = (c ++ [' ']) ++ (('?' :: ((' ' :: (a ++ [' '])) ++ [':'])) ++ (' ' :: b)) := by
    simp [spaced]
  rw [htext]
  refine eval_around ev depth (Tight.of_ends (by decide) (by decide) _) _ _ ?_ ?_
  · intro hd
    exact eval_bind_of_maxDepth_lt ev (by omega) _ _
  · intro before l r after hbefore hafter hl hr
    have hleft := hc.slot_of_append hbefore hl
    have hbranch := ha.slot_between
    have hlast : trim (trim r) = trim b := by
      rw [trim_trim]
      refine trim_eq_of_pad_eq Blank.nil hafter (by decide : Blank [' ']) Blank.nil ?_
      simpa using hr.symm
    have hform := Shape.ofText_ternary hleft.closed hleft.question hbranch.closed
      hbranch.transparent r
    simp only [List.cons_append, List.append_assoc, List.nil_append] at hform ⊢
    rw [hform, Shape.evaluate, eval_eq_of_trim_eq ev ((trim_trim l).trans hleft.trim_eq),
      eval_eq_of_trim_eq ev ((trim_trim _).trans hbranch.trim_eq), eval_eq_of_trim_eq ev hlast]

/-- **A fallback in a condition** takes the ternary for its other side. -/
theorem eval_fallback_before (hp : Uncut p) (hq : Uncut q) (ha : Uncut a) (hb : Uncut b) :
    ev.eval depth (spaced ['?', '?'] p (spaced ['?'] q (spaced [':'] a b))) = (do
      let value ← ev.eval (depth + 1) p
      if value.isNullish then ev.eval (depth + 1) (spaced ['?'] q (spaced [':'] a b))
      else return value) := by
  have htext : spaced ['?', '?'] p (spaced ['?'] q (spaced [':'] a b))
      = (p ++ [' ']) ++ (('?' :: ('?' :: ((' ' :: (q ++ [' '])) ++ ('?' ::
          (' ' :: (a ++ [' ']))))) ++ [':']) ++ (' ' :: b)) := by
    simp [spaced]
  rw [htext]
  refine eval_around ev depth (Tight.of_ends (by decide) (by decide) _) _ _ ?_ ?_
  · intro hd
    exact eval_bind_of_maxDepth_lt ev (by omega) _ _
  · intro before l r after hbefore hafter hl hr
    have hleft := hp.slot_of_append hbefore hl
    have hform := Shape.ofText_fallback_before hleft hq.slot_between ha.slot_between
      (hb.avoids_of_append hr)
    have hother : trim ((' ' :: (q ++ [' '])) ++ ('?' :: ((' ' :: (a ++ [' '])) ++ (':' :: r))))
        = trim (spaced ['?'] q (spaced [':'] a b)) := by
      refine trim_eq_of_pad_eq Blank.nil hafter (by decide : Blank [' ']) Blank.nil ?_
      simp [spaced, ← hr]
    simp only [List.cons_append, List.append_assoc, List.nil_append] at hform hother ⊢
    rw [hform, Shape.evaluate, eval_eq_of_trim_eq ev hleft.trim_eq, eval_eq_of_trim_eq ev hother]

/-- **A fallback in a branch** tears the ternary apart. -/
theorem eval_fallback_within (hc : Uncut c) (hp : Uncut p) (hq : Uncut q) (hb : Uncut b) :
    ev.eval depth (spaced ['?'] c (spaced ['?', '?'] p (spaced [':'] q b))) = (do
      let value ← ev.eval (depth + 1) (spaced ['?'] c p)
      if value.isNullish then ev.eval (depth + 1) (spaced [':'] q b) else return value) := by
  have htext : spaced ['?'] c (spaced ['?', '?'] p (spaced [':'] q b))
      = (c ++ [' ']) ++ (('?' :: (((' ' :: (p ++ [' '])) ++ ('?' :: '?' ::
          (' ' :: (q ++ [' '])))) ++ [':'])) ++ (' ' :: b)) := by
    simp [spaced]
  rw [htext]
  refine eval_around ev depth (Tight.of_ends (by decide) (by decide) _) _ _ ?_ ?_
  · intro hd
    exact eval_bind_of_maxDepth_lt ev (by omega) _ _
  · intro before l r after hbefore hafter hl hr
    have hform := Shape.ofText_fallback_within (hc.slot_of_append hbefore hl) hp.slot_between
      (List.cons_ne_nil _ _) hq.slot_between (hb.avoids_of_append hr)
    have hprimary : trim (l ++ ('?' :: (' ' :: (p ++ [' '])))) = trim (spaced ['?'] c p) := by
      refine trim_eq_of_pad_eq hbefore Blank.nil Blank.nil (by decide : Blank [' ']) ?_
      rw [List.append_nil, ← List.append_assoc, ← hl]
      simp [spaced]
    have hother : trim ((' ' :: (q ++ [' '])) ++ (':' :: r)) = trim (spaced [':'] q b) := by
      refine trim_eq_of_pad_eq Blank.nil hafter (by decide : Blank [' ']) Blank.nil ?_
      simp [spaced, ← hr]
    simp only [List.cons_append, List.append_assoc, List.nil_append] at hform hprimary hother ⊢
    rw [hform, Shape.evaluate, eval_eq_of_trim_eq ev hprimary, eval_eq_of_trim_eq ev hother]

/-- **`??` binds looser than a ternary beside it.**  In front of the condition it has the whole
ternary for its other side; in the first branch it is cut between the question mark and the
colon, and both halves are read as texts of their own.  Its operands and the operands of the
ternary may be any balanced texts in which neither operator is seen. -/
theorem eval_fallback_beside_ternary (hc : Uncut c) (hp : Uncut p) (hq : Uncut q) (ha : Uncut a)
    (hb : Uncut b) :
    ev.eval depth (spaced ['?', '?'] p (spaced ['?'] q (spaced [':'] a b)))
      = (do
        let value ← ev.eval (depth + 1) p
        if value.isNullish then ev.eval (depth + 1) (spaced ['?'] q (spaced [':'] a b))
        else return value) ∧
    ev.eval depth (spaced ['?'] q (spaced [':'] a b))
      = (do
        if (← ev.eval (depth + 1) q).toBoolean then ev.eval (depth + 1) a
        else ev.eval (depth + 1) b) ∧
    ev.eval depth (spaced ['?'] c (spaced ['?', '?'] p (spaced [':'] q b)))
      = (do
        let value ← ev.eval (depth + 1) (spaced ['?'] c p)
        if value.isNullish then ev.eval (depth + 1) (spaced [':'] q b) else return value) :=
  ⟨eval_fallback_before ev depth hp hq ha hb, eval_ternary_of_uncut ev depth hq ha b,
    eval_fallback_within ev depth hc hp hq hb⟩

end Evaluator

theorem Literal.uncut (l : Literal) : Uncut l.text :=
  ⟨l.closed.balanced, Literal.avoids (by decide : Foreign [':', '?'])⟩

theorem Uncut.parens {cs : List Char} (h : Balance.check cs = .ok ()) :
    Uncut (parenthesized cs) :=
  ⟨(Closed.enclosed .round h).balanced, Shape.Avoids.enclosed .round h (by decide)⟩

namespace Evaluator

/-- A colon and a question mark in string literals, and a text that ends in a backslash. -/
theorem eval_fallback_beside_ternary_of_unusual_texts :
    let colon : Literal := .string '"' [':'] rfl (by simp [IsQuotable])
    let question : Literal := .string '\'' ['?', '?'] rfl (by simp [IsQuotable])
    let backslash : List Char := ['\\']
    Uncut colon.text ∧ Uncut question.text ∧ Uncut backslash ∧ Uncut [] ∧
    (default : Evaluator).eval 0
        (spaced ['?', '?'] backslash (spaced ['?'] question.text (spaced [':'] colon.text [])))
      = (do
        let value ← (default : Evaluator).eval 1 backslash
        if value.isNullish then
          (default : Evaluator).eval 1 (spaced ['?'] question.text (spaced [':'] colon.text []))
        else return value) := by
  intro colon question backslash
  have hbackslash : Uncut backslash := ⟨rfl, by decide⟩
  have hempty : Uncut [] := ⟨rfl, by decide⟩
  exact ⟨colon.uncut, question.uncut, hbackslash, hempty,
    (eval_fallback_beside_ternary default 0 hempty hbackslash question.uncut colon.uncut hempty).1⟩

theorem balanced_spaced (l m : Literal) :
    Balance.check (spaced ['?', '?'] l.text m.text) = .ok () := by
  have hop : Plain (' ' :: (['?', '?'] ++ [' '])) := by decide
  have hclosed := l.closed.append ((Closed.of_plain hop).append m.closed)
  simpa [spaced] using hclosed.balanced

/-- A fallback of two literals in parentheses. -/
theorem eval_parenthesized_fallback_literals (ev : Evaluator) {depth : Nat}
    (hdepth : depth + 3 ≤ ev.options.maxDepth) (l m : Literal) :
    ev.eval depth (parenthesized (spaced ['?', '?'] l.text m.text))
      = .ok (if (l.value ev.context).isNullish then m.value ev.context
        else l.value ev.context) := by
  have hspace : Blank [' '] := by decide
  have hfallback := eval_fallback ev (by omega : depth + 1 ≤ _) (l.printed.mono (by decide))
    (m.printed.mono (by decide)) ⟨[' '], hspace⟩ ⟨[' '], hspace⟩
  rw [eval_parenthesized ev depth (balanced_spaced l m)]
  refine hfallback.trans ?_
  rw [eval_literal ev (by omega) l (by omega), eval_literal ev (by omega) m (by omega)]
  cases h : (l.value ev.context).isNullish <;> simp [bind, Except.bind, pure, Except.pure, h]

/-- `true ?? true ? false : null` is true, and `true ? false ?? true : true` is undefined: with
the parentheses that precedence puts there, both are false. -/
theorem not_eval_fallback_tighter_than_ternary :
    (¬ ∀ (ev : Evaluator) (depth : Nat) (p q a b : List Char) (v w : Resolved),
        (∀ t ∈ [p, q, a, b], Balance.check t = .ok () ∧ Shape.Avoids Shape.loose t) →
        ev.eval depth (spaced ['?', '?'] p (spaced ['?'] q (spaced [':'] a b))) = .ok v →
        ev.eval depth (spaced ['?'] (parenthesized (spaced ['?', '?'] p q)) (spaced [':'] a b))
          = .ok w →
        v = w) ∧
    (¬ ∀ (ev : Evaluator) (depth : Nat) (c p q b : List Char) (v w : Resolved),
        (∀ t ∈ [c, p, q, b], Balance.check t = .ok () ∧ Shape.Avoids Shape.loose t) →
        ev.eval depth (spaced ['?'] c (spaced ['?', '?'] p (spaced [':'] q b))) = .ok v →
        ev.eval depth (spaced ['?'] c (spaced [':'] (parenthesized (spaced ['?', '?'] p q)) b))
          = .ok w →
        v = w) := by
  let ev : Evaluator := default
  have hvalue : ∀ l : Literal, ev.eval 1 l.text = .ok (l.value ev.context) :=
    fun l => eval_literal ev (by decide) l (by decide)
  have hdocumented : ∀ l m : Literal,
      ev.eval 1 (parenthesized (spaced ['?', '?'] l.text m.text))
        = .ok (if (l.value ev.context).isNullish then m.value ev.context
          else l.value ev.context) :=
    fun l m => eval_parenthesized_fallback_literals ev (by decide) l m
  have hparens : ∀ l m : Literal,
      Uncut (parenthesized (spaced ['?', '?'] l.text m.text)) :=
    fun l m => Uncut.parens (balanced_spaced l m)
  have htexts : ∀ ls : List Literal, ∀ t ∈ ls.map Literal.text,
      Balance.check t = .ok () ∧ Shape.Avoids Shape.loose t := by
    intro ls t ht
    obtain ⟨l, -, rfl⟩ := List.mem_map.mp ht
    exact ⟨l.closed.balanced, Literal.avoids (by decide)⟩
  let yes : Literal := .bool true
  let no : Literal := .bool false
  constructor
  · intro h
    have hread : ev.eval 0 (spaced ['?', '?'] yes.text (spaced ['?'] yes.text
        (spaced [':'] no.text Literal.null.text))) = .ok (some (.bool true)) := by
      rw [eval_fallback_before ev 0 yes.uncut yes.uncut no.uncut Literal.null.uncut, hvalue yes]
      rfl
    have hmeant : ev.eval 0 (spaced ['?'] (parenthesized (spaced ['?', '?'] yes.text yes.text))
        (spaced [':'] no.text Literal.null.text)) = .ok (some (.bool false)) := by
      rw [eval_ternary_of_uncut ev 0 (hparens yes yes) no.uncut, hdocumented, hvalue no]
      rfl
    have heq := h ev 0 yes.text yes.text no.text Literal.null.text _ _
      (htexts [yes, yes, no, .null]) hread hmeant
    simp at heq
  · intro h
    have hprimary : ev.eval 1 (spaced ['?'] yes.text no.text) = .ok none :=
      eval_name ev (by decide) (by decide) (by decide) (by decide)
    have hother : ev.eval 1 (spaced [':'] yes.text yes.text) = .ok none :=
      eval_name ev (by decide) (by decide) (by decide) (by decide)
    have hread : ev.eval 0 (spaced ['?'] yes.text (spaced ['?', '?'] no.text
        (spaced [':'] yes.text yes.text))) = .ok none := by
      rw [eval_fallback_within ev 0 yes.uncut no.uncut yes.uncut yes.uncut, hprimary, hother]
      rfl
    have hmeant : ev.eval 0 (spaced ['?'] yes.text (spaced [':']
        (parenthesized (spaced ['?', '?'] no.text yes.text)) yes.text))
        = .ok (some (.bool false)) := by
      rw [eval_ternary_of_uncut ev 0 yes.uncut (hparens no yes), hvalue yes, hdocumented]
      rfl
    have heq := h ev 0 yes.text no.text yes.text yes.text _ _ (htexts [yes, no, yes, yes]) hread
      hmeant
    simp at heq

end Evaluator
end FormLogic
