import FormLogic.Expression.Mode
import FormLogic.Proofs.Expression.Grammar

/-!
# Printed formulas mean what they say

The evaluator has no syntax tree: it reads a text form by form.  On the texts of a formula this
reading is right.  Every form that is tried before the formula's own misses the text, the
formula's own form cuts it into the texts of the parts, and so, by induction on the length of
the text, the value of the text is the value of the formula.
-/

namespace FormLogic

open Scan Text

/-! ## 1. Nested operands of one connective

A connective inside the same connective needs no parentheses, so its text is cut into more
pieces than the formula has operands.  The pieces are operands of the nested formulas, and they
hold together when the operands do. -/

namespace Connective

/-- Two truths under a connective. -/
def combine : Connective → Bool → Bool → Bool
  | conjunction => (· && ·)
  | disjunction => (· || ·)

theorem holds_singleton (k : Connective) (v : Resolved) : k.holds [v] = v.toBoolean := by
  cases k <;> simp [holds]

theorem holds_append (k : Connective) (vs ws : List Resolved) :
    k.holds (vs ++ ws) = k.combine (k.holds vs) (k.holds ws) := by
  cases k <;> simp [holds, combine]

end Connective

theorem Joined.append {op : List Char} {ts us : List (List Char)} {text rest : List Char}
    (h : Joined op ts text) (hrest : Joined op us rest) (b b' : Blanks) :
    Joined op (ts ++ us) (text ++ (b ++ (op ++ (b' ++ rest)))) := by
  induction h with
  | one t => exact .cons t b b' hrest
  | cons t b₁ b₂ _ ih => simpa using Joined.cons t b₁ b₂ ih

/-- **Pieces of a text**: at least `n` operands that are not cut further, joined to the text,
with their truth under the connective. -/
def Pieces (k : Connective) (c : Context) (n : Nat) (truth : Bool) (text : List Char) : Prop :=
  ∃ ps : List (Formula × List Char), (∀ p ∈ ps, Prints k.tighter p.1 p.2) ∧
    Joined k.symbol (ps.map Prod.snd) text ∧ n ≤ ps.length ∧
    k.holds (ps.map fun p => p.1.value c) = truth

namespace Pieces

variable {k : Connective} {c : Context}

theorem single {f : Formula} {t : List Char} (h : Prints k.tighter f t) :
    Pieces k c 1 (f.value c).toBoolean t :=
  ⟨[(f, t)], by simpa using h, .one t, Nat.le_refl 1, k.holds_singleton _⟩

theorem append {m n : Nat} {x y : Bool} {text rest : List Char} (h : Pieces k c m x text)
    (hrest : Pieces k c n y rest) (b b' : Blanks) :
    Pieces k c (m + n) (k.combine x y) (text ++ (b ++ (k.symbol ++ (b' ++ rest)))) := by
  obtain ⟨ps, hps, hjoined, hm, rfl⟩ := h
  obtain ⟨qs, hqs, hjoined', hn, rfl⟩ := hrest
  refine ⟨ps ++ qs, ?_, ?_, ?_, ?_⟩
  · intro p hp
    exact (List.mem_append.mp hp).elim (hps p) (hqs p)
  · rw [List.map_append]
    exact hjoined.append hjoined' b b'
  · rw [List.length_append]
    omega
  · rw [List.map_append, k.holds_append]

/-- The pieces of the operands together are pieces of the text. -/
theorem of_joined {operands : List (Formula × List Char)} {text : List Char}
    (h : Joined k.symbol (operands.map Prod.snd) text)
    (hpieces : ∀ o ∈ operands, Pieces k c 1 (o.1.value c).toBoolean o.2) :
    Pieces k c operands.length (k.holds (operands.map fun o => o.1.value c)) text := by
  generalize hts : operands.map Prod.snd = ts at h
  induction h generalizing operands with
  | one t =>
    obtain ⟨o, rfl, rfl⟩ := List.map_eq_singleton_iff.mp hts
    rw [List.map_singleton, k.holds_singleton]
    exact hpieces o List.mem_cons_self
  | cons t b b' _ ih =>
    obtain ⟨o, os, rfl, rfl, rfl⟩ := List.map_eq_cons_iff.mp hts
    have hrest := ih (fun p hp => hpieces p (List.mem_cons_of_mem _ hp)) rfl
    have hall := (hpieces o List.mem_cons_self).append hrest b b'
    rw [← k.holds_singleton, ← k.holds_append] at hall
    rw [List.length_cons, Nat.add_comm]
    exact hall

end Pieces

/-- **Every operand of a connective has pieces**, itself or those of its own operands. -/
theorem Prints.pieces {k : Connective} {place : Place} {f : Formula} {t : List Char}
    (h : Prints place f t) (hk : place = k.place) (c : Context) :
    Pieces k c 1 (f.value c).toBoolean t := by
  have htighter : k.tighter ≤ .negated := by cases k <;> decide
  induction h with
  | literal _ l => exact Pieces.single (.literal _ l)
  | call => exact absurd hk (by cases k <;> decide)
  | comparison _ op b b' hl hr => exact Pieces.single (.comparison htighter op b b' hl hr)
  | negation _ b h => exact Pieces.single (.negation htighter b h)
  | logical k' hplace hlen hoperands hjoined ih =>
    subst hk
    by_cases hsame : k' = k
    · -- the text is cut at the operators of the operands too
      subst hsame
      obtain ⟨ps, hps, hcut, hcount, htruth⟩ := Pieces.of_joined hjoined fun o ho => ih o ho rfl
      refine ⟨ps, hps, hcut, by omega, ?_⟩
      rw [htruth, Formula.value, Formula.values_eq_map, List.map_map]
      rfl
    · refine Pieces.single (.logical k' ?_ hlen hoperands hjoined)
      revert hplace hsame
      cases k <;> cases k' <;> decide
  | ternary hplace =>
    subst hk
    exact absurd hplace (by cases k <;> decide)
  | fallback => exact absurd hk (by cases k <;> decide)
  | group _ b b' h => exact Pieces.single (.group htighter b b' h)
  | parentheses _ b b' hlt h =>
    subst hk
    have hle : k.place.rank ≤ k.tighter.rank := by cases k <;> decide
    exact Pieces.single (.parentheses htighter b b' (Nat.lt_of_lt_of_le hlt hle) h)

/-! ## 2. The forms of printed texts -/

theorem Evaluation.collect_ok (vs : List Resolved) : collect (vs.map .ok) = .ok vs := by
  induction vs with
  | nil => rfl
  | cons v vs ih =>
    rw [List.map_cons, collect, ih]
    rfl

/-- The text of two parts and an operator, the parts with the blank characters around them. -/
theorem infix_pad (a c op : List Char) (b b' : List Char) :
    a ++ (b ++ (op ++ (b' ++ c))) = ([] ++ (a ++ b)) ++ (op ++ (b' ++ (c ++ []))) := by
  simp

/-- Blank characters in front of a text hide no character that it may not begin with. -/
theorem not_mem_of_head?_append {chars t : List Char} (b : Blanks) (hchars : Visible chars)
    (h : ∀ c ∈ t.head?, c ∉ chars) : ∀ c ∈ (b.1 ++ t).head?, c ∉ chars := by
  obtain ⟨b, hb⟩ := b
  cases b with
  | nil => exact h
  | cons d b =>
    intro c hc hmem
    obtain rfl : d = c := by simpa using hc
    exact hchars.not_mem hb hmem List.mem_cons_self

theorem Helper.ofName?_name (helper : Helper) : Helper.ofName? helper.name = some helper := by
  cases helper <;> rfl

theorem Helper.isIdentifier_name (helper : Helper) : isIdentifier helper.name.toList = true := by
  cases helper <;> rfl

/-- **A name and a group are read as a call**, whatever blank characters stand around the name. -/
theorem Call.ofText?_append {name inside : List Char} (hname : isIdentifier name = true)
    (b b' : Blanks) (h : Balance.check inside = .ok ()) :
    Call.ofText? (b ++ (name ++ (b' ++ ('(' :: (inside ++ [')'])))))
      = some ⟨name, Scan.arguments inside⟩ := by
  have hword := Path.isWord_of_isIdentifier hname
  have hvisible : Visible ['('] := by decide
  have hparen : ∀ c ∈ b.1 ++ (name ++ b'.1), (c != '(') = true := by
    intro c hc
    rw [bne_iff_ne]
    rintro rfl
    rw [List.mem_append, List.mem_append] at hc
    rcases hc with hc | hc | hc
    · exact hvisible.not_mem b.2 List.mem_cons_self hc
    · exact hword.not_mem (by decide) hc
    · exact hvisible.not_mem b'.2 List.mem_cons_self hc
  have htext : b.1 ++ (name ++ (b'.1 ++ ('(' :: (inside ++ [')']))))
      = (b ++ (name ++ b')) ++ ('(' :: (inside ++ [')'])) := by
    simp
  rw [htext, Call.ofText?, List.takeWhile_append_of_pos hparen,
    List.dropWhile_append_of_pos hparen]
  simp [hword.tight.trim_pad b.2 b'.2, hname, group?_parens h]

/-- **A printed call is read as a call.** -/
theorem Call.ofText?_call (helper : Helper) {ts : List (List Char)} {inside : List Char}
    (harguments : Arguments ts inside) (hts : ∀ t ∈ ts, IsArgument t) :
    Call.ofText? (helper.name.toList ++ ('(' :: (inside ++ [')'])))
      = some ⟨helper.name.toList, ts⟩ := by
  have hbalanced := harguments.balanced fun t ht => (hts t ht).balanced
  have hcall := Call.ofText?_append helper.isIdentifier_name .none .none hbalanced
  rwa [harguments.arguments_eq hts] at hcall

/-- The text of an atom has no form of its own. -/
theorem Literal.shape_eq_operand (l : Literal) : Shape.ofText l.text = .operand := by
  have hforeign : Foreign ['!', '(', ']', ')'] := by decide
  exact Shape.ofText_operand (l.printed.avoids.mono (by decide))
    (Literal.head?_ne hforeign (by decide)) (Literal.head?_ne hforeign (by decide))
    (Literal.getLast?_ne hforeign (by decide)) (Literal.getLast?_ne hforeign (by decide))

namespace Evaluator

variable (ev : Evaluator) {depth : Nat} (hdepth : depth ≤ ev.options.maxDepth)

include hdepth

/-- Below the limit a text that trimming leaves alone is evaluated by its form. -/
theorem eval_of_tight {t : List Char} (h : Tight t) :
    ev.eval depth t = (Shape.ofText t).evaluate (ev.eval (depth + 1)) (ev.operand (depth + 1))
      (ev.atom (depth + 1)) t := by
  rw [eval_eq, if_neg (by omega), h.trim_eq]

theorem atom_literal (l : Literal) : ev.atom depth l.text = .ok (l.value ev.context) := by
  rw [atom_eq, if_neg (by omega), l.tight.trim_eq, l.evaluate_ofText]

theorem operand_literal (l : Literal) : ev.operand depth l.text = .ok (l.value ev.context) := by
  rw [operand_eq, l.call_eq_none]
  exact atom_literal ev hdepth l

omit hdepth in
/-- A text that has no form of its own is looked up as a variable, whatever it looks like. -/
theorem eval_name {cs : List Char} (hnext : depth + 1 ≤ ev.options.maxDepth)
    (hshape : Shape.ofText (trim cs) = .operand) (hcall : Call.ofText? (trim cs) = none)
    (hatom : Atom.ofText (trim cs) = .path) :
    ev.eval depth cs = .ok (ev.context.resolve? (trim cs)) := by
  rw [eval_eq, if_neg (by omega), hshape, Shape.evaluate, operand_eq, hcall]
  simp only [atom_eq, trim_trim, hatom, Atom.evaluate]
  rw [if_neg (by omega)]

theorem eval_bracketed {t : List Char} (h : Printed .whole t) (b b' : Blanks) :
    ev.eval depth (bracketed b b' t) = ev.eval (depth + 1) t := by
  rw [eval_of_tight ev hdepth (Printed.bracketed h.closed b b').tight, bracketed,
    Shape.ofText_group (h.closed_pad b b').balanced, Shape.evaluate, eval_pad ev h.tight b.2 b'.2]

theorem eval_ternary {tc tt tf : List Char} (hc : Printed .disjunct tc) (ht : Printed .branch tt)
    (hf : Printed .branch tf) (b₁ b₂ b₃ b₄ : Blanks) :
    ev.eval depth (tc ++ (b₁ ++ ('?' :: (b₂ ++ (tt ++ (b₃ ++ (':' :: (b₄ ++ tf))))))))
      = (do
        if (← ev.eval (depth + 1) tc).toBoolean then ev.eval (depth + 1) tt
        else ev.eval (depth + 1) tf) := by
  rw [eval_of_tight ev hdepth (hc.ternary ht hf b₁ b₂ b₃ b₄).tight, ternary_pad,
    Shape.ofText_ternary (hc.closed_pad .none b₁)
      (hc.avoids_pad .none b₁ '?' (by decide)) (ht.closed_pad b₂ b₃)
      (Shape.transparent_pad b₂.2 ht.closed (ht.transparent (by decide)) b₃.2),
    hc.tight.trim_pad Blank.nil b₁.2, ht.tight.trim_pad b₂.2 b₃.2, hf.tight.trim_pad b₄.2 Blank.nil]
  rfl

theorem eval_fallback {tp tq : List Char} (hp : Printed .disjunct tp) (hq : Printed .disjunct tq)
    (b b' : Blanks) :
    ev.eval depth (tp ++ (b ++ (['?', '?'] ++ (b' ++ tq)))) = (do
      let value ← ev.eval (depth + 1) tp
      if value.isNullish then ev.eval (depth + 1) tq else return value) := by
  have htight := (Joined.seen_pair b b' (by decide : Plain ['?', '?'])
    (by decide : Shape.Apart (Place.looser .whole) _) (hp.toSeen.mono (by decide))
    (hq.toSeen.mono (by decide))).tight
  have hloose : [':', '?'] ⊆ Place.looser .disjunct := by decide
  rw [eval_of_tight ev hdepth htight, infix_pad,
    Shape.ofText_fallback (hp.closed_pad .none b)
      ((hp.avoids_pad .none b).mono hloose)
      ((hq.avoids_pad b' .none).mono hloose),
    Shape.evaluate, eval_pad ev hp.tight Blank.nil b.2, eval_pad ev hq.tight b'.2 Blank.nil]

theorem eval_comparison (op : Comparison) {l r : List Char} (hl : Shape.IsSide l) (hlt : Tight l)
    (hr : Shape.IsSide r) (hrt : Tight r) (b b' : Blanks) :
    ev.eval depth (l ++ (b ++ (op.symbol ++ (b' ++ r)))) = (do
      let left ← ev.operand (depth + 1) l
      let right ← ev.operand (depth + 1) r
      return some (.bool (op.apply left right))) := by
  have htight : Tight (l ++ (b ++ (op.symbol ++ (b' ++ r)))) := by
    simpa using hlt.append hrt (b ++ (op.symbol ++ b'))
  have hvisible : Visible (Shape.branching ++ Shape.comparing) := by decide
  have hne : [] ++ (l ++ b.1) ≠ [] := List.append_ne_nil_of_left_ne_nil hlt.ne_nil b
  rw [eval_of_tight ev hdepth htight, infix_pad,
    Shape.ofText_comparison op hne (Shape.balanced_pad Blank.nil hl.balanced b.2)
      (Shape.avoids_pad hvisible Blank.nil hl.balanced hl.avoids b.2)
      (Shape.avoids_pad hvisible b'.2 hr.balanced hr.avoids Blank.nil),
    hlt.trim_pad Blank.nil b.2, hrt.trim_pad b'.2 Blank.nil]
  rfl

/-- A negation takes the parentheses off its operand, which changes the depth and not the
value. -/
theorem eval_negation {t : List Char} (h : Printed .negated t) (b : Blanks) {v : Resolved}
    (hv : ∀ d ≤ depth + 1, ev.eval d t = .ok v) :
    ev.eval depth ('!' :: (b ++ t)) = .ok (some (.bool !v.toBoolean)) := by
  have htrim : trim (b ++ t) = t := by simpa using h.tight.trim_pad b.2 Blank.nil
  have hhead : (b.1 ++ t).head? ≠ some '=' := fun heq =>
    not_mem_of_head?_append b (by decide : Visible (Place.barred .negated)) h.first '=' heq
      (by decide)
  have hinner : ev.eval (depth + 1) ((group? t).getD t) = .ok v := by
    cases hgroup : group? t with
    | none => exact hv (depth + 1) (Nat.le_refl _)
    | some inner =>
      -- at its own depth the group is read as what stands in it one level down
      have hbang : t.head? ≠ some '!' := by
        simp [eq_parens_of_group? hgroup]
      rw [← hv depth (Nat.le_succ depth), eval_of_tight ev hdepth h.tight,
        Shape.ofText_of_avoids (h.avoids.mono (by decide)), Shape.negated?_of_head_ne hbang, hgroup]
      rfl
  rw [eval_of_tight ev hdepth (h.negation b).tight,
    Shape.ofText_negation ((h.negation b).avoids.mono (by decide)) hhead, htrim, Shape.evaluate,
    hinner]
  rfl

theorem eval_logical (k : Connective) {ts : List (List Char)} {text : List Char}
    (hjoined : Joined k.symbol ts text) (hlen : 2 ≤ ts.length)
    (hts : ∀ t ∈ ts, Printed k.tighter t) :
    ev.eval depth text = k.outcome (ts.map (ev.eval (depth + 1))) := by
  have htight := hjoined.tight fun t ht => (hts t ht).tight
  have hcut : (split k.symbol text).map trim = ts := by
    obtain ⟨o, os, hsymbol, hplain, ho, hmem⟩ := k.exists_symbol
    rw [hsymbol] at hjoined ⊢
    simpa using hjoined.split_eq hplain ho
      (fun t ht => ⟨(hts t ht).closed.balanced, (hts t ht).tight, (hts t ht).avoids o hmem⟩)
      .none .none
  have hcount : 1 < (split k.symbol text).length := by
    rw [← hcut, List.length_map] at hlen
    exact hlen
  have hpieces : (split k.symbol text).map (ev.eval (depth + 1))
      = ts.map (ev.eval (depth + 1)) := by
    rw [← hcut, List.map_map]
    refine List.map_congr_left fun p hp => eval_eq_of_trim_eq ev ?_ _
    exact (hts (trim p) (hcut ▸ List.mem_map_of_mem hp)).tight.trim_eq.symm
  have hseen : Shape.Avoids (Shape.beforeConnective k) text := by
    have hsub : Shape.beforeConnective k ⊆ k.tighter.looser := by cases k <;> decide
    have hno : Shape.Apart (Shape.beforeConnective k) k.symbol := by cases k <;> decide
    exact hjoined.avoids (by cases k <;> decide) hno
      (fun c hc => k.tighter.visible_looser c (hsub hc))
      fun t ht => ⟨(hts t ht).closed, (hts t ht).avoids.mono hsub⟩
  rw [eval_of_tight ev hdepth htight, Shape.ofText_connective k hseen hcount, k.evaluate_shape,
    hpieces]

theorem eval_literal (l : Literal) (hnext : depth + 1 ≤ ev.options.maxDepth) :
    ev.eval depth l.text = .ok (l.value ev.context) := by
  rw [eval_of_tight ev hdepth l.tight, l.shape_eq_operand]
  exact operand_literal ev hnext l

omit hdepth in
theorem operand_call (helper : Helper) {ts : List (List Char)} {inside : List Char}
    (harguments : Arguments ts inside) (hts : ∀ t ∈ ts, IsArgument t) :
    ev.operand depth (helper.name.toList ++ ('(' :: (inside ++ [')']))) = (do
      let args ← Evaluation.collect (ts.map (ev.eval depth))
      return helper.apply args ev.context.user) := by
  rw [operand_eq, Call.ofText?_call helper harguments hts]
  simp only [Call.evaluate, String.ofList_toList, Helper.ofName?_name]

end Evaluator

/-! ## 3. Printed formulas -/

namespace Evaluator

/-- The reading of a text at a place: a side of a comparison is no expression. -/
def readAt (ev : Evaluator) : Place → Nat → List Char → Evaluation
  | .side => ev.operand
  | _ => ev.eval

theorem readAt_of_le (ev : Evaluator) {place : Place} (h : place ≤ .negated) :
    ev.readAt place = ev.eval := by
  cases place with
  | side => exact absurd h (by decide)
  | _ => rfl

/-- **A printed text has the value of its formula**, at every depth that leaves one level of
nesting for each of its characters. -/
theorem readAt_of_prints (ev : Evaluator) {place : Place} {f : Formula} {t : List Char}
    (h : Prints place f t) {depth : Nat} (hdepth : depth + t.length ≤ ev.options.maxDepth) :
    ev.readAt place depth t = .ok (f.value ev.context) := by
  -- on the length and not on the derivation: the pieces of a connective are no operands of it
  induction hn : t.length using Nat.strongRecOn generalizing place f t depth with
  | ind n ih =>
    have hd : depth ≤ ev.options.maxDepth := by omega
    have part : ∀ {q : Place} {g : Formula} {u : List Char}, Prints q g u → u.length < n →
        ev.readAt q (depth + 1) u = .ok (g.value ev.context) :=
      fun hp hlt => ih _ hlt hp (by omega) rfl
    subst hn
    cases h with
    | literal _ l =>
      have hpos := List.length_pos_iff.mpr l.tight.ne_nil
      cases place with
      | side => exact operand_literal ev hd l
      | _ => exact eval_literal ev hd l (by omega)
    | @call helper arguments inside harguments hinside =>
      have hprinted : ∀ t ∈ arguments.map Prod.snd, IsArgument t := by
        intro t ht
        obtain ⟨a, ha, rfl⟩ := List.mem_map.mp ht
        exact (harguments a ha).printed.isArgument
      have hvalues : (arguments.map Prod.snd).map (ev.eval depth)
          = (Formula.values ev.context (arguments.map Prod.fst)).map .ok := by
        rw [Formula.values_eq_map, List.map_map, List.map_map, List.map_map]
        refine List.map_congr_left ?_
        intro a ha
        have hmem : a.2 ∈ Scan.arguments inside := by
          rw [hinside.arguments_eq hprinted]
          exact List.mem_map_of_mem ha
        have hle := length_le_of_mem_arguments hmem
        simp only [List.length_append, List.length_cons] at hdepth
        -- an argument is evaluated at the depth of its call
        exact ih _ (by simp only [List.length_append, List.length_cons]; omega)
          (harguments a ha) (by omega) rfl
      rw [readAt, operand_call ev helper hinside hprinted, hvalues, Evaluation.collect_ok]
      rfl
    | @comparison _ hplace op b b' left right tl tr hl hr =>
      have hsymbol : 0 < op.symbol.length := by cases op <;> decide
      have hleft := part hl (by simp only [List.length_append]; omega)
      have hright := part hr (by simp only [List.length_append]; omega)
      rw [readAt] at hleft hright
      rw [readAt_of_le ev hplace, eval_comparison ev hd op hl.printed.isSide hl.printed.tight
        hr.printed.isSide hr.printed.tight b b', hleft, hright]
      rfl
    | negation hplace b h =>
      rw [readAt_of_le ev hplace]
      -- the operand is evaluated without its parentheses, at one of two depths
      refine eval_negation ev hd h.printed b ?_
      intro d hle
      rw [← readAt_of_le ev (by decide : Place.negated ≤ .negated)]
      simp only [List.length_cons, List.length_append] at hdepth
      exact ih _ (by simp only [List.length_cons, List.length_append]; omega) h (by omega) rfl
    | logical k hplace hlen hoperands hjoined =>
      obtain ⟨ps, hps, hcut, hcount, htruth⟩ :=
        Pieces.of_joined hjoined fun o ho => (hoperands o ho).pieces rfl ev.context
      have hshorter := (hcut.length_le (by cases k <;> decide)).2
      have hvalues : (ps.map Prod.snd).map (ev.eval (depth + 1))
          = (ps.map fun p => p.1.value ev.context).map .ok := by
        rw [List.map_map, List.map_map]
        refine List.map_congr_left ?_
        intro p hp
        have hlt := hshorter p.2 (List.mem_map_of_mem hp)
        rw [List.length_map] at hlt
        have hpiece := part (hps p hp) (by omega)
        rwa [readAt_of_le ev (by cases k <;> decide)] at hpiece
      have hprinted : ∀ t ∈ ps.map Prod.snd, Printed k.tighter t := by
        intro t ht
        obtain ⟨p, hp, rfl⟩ := List.mem_map.mp ht
        exact (hps p hp).printed
      rw [readAt_of_le ev (Nat.le_trans hplace (by cases k <;> decide)),
        eval_logical ev hd k hcut (by rw [List.length_map]; omega) hprinted, hvalues,
        k.outcome_ok, htruth, Formula.value, Formula.values_eq_map, List.map_map]
      rfl
    | @ternary _ hplace b₁ b₂ b₃ b₄ _ _ _ tc tt tf hc ht hf =>
      have hcondition := part hc (by simp only [List.length_append, List.length_cons]; omega)
      have htrue := part ht (by simp only [List.length_append, List.length_cons]; omega)
      have hfalse := part hf (by simp only [List.length_append, List.length_cons]; omega)
      rw [readAt_of_le ev (by decide)] at hcondition htrue hfalse
      rw [readAt_of_le ev (Nat.le_trans hplace (by decide)),
        eval_ternary ev hd hc.printed ht.printed hf.printed b₁ b₂ b₃ b₄, hcondition, htrue, hfalse,
        Formula.value]
      exact (apply_ite Except.ok _ _ _).symm
    | @fallback b b' _ _ tp tq hp hq =>
      have hprimary := part hp (by simp only [List.length_append, List.length_cons]; omega)
      have hother := part hq (by simp only [List.length_append, List.length_cons]; omega)
      rw [readAt_of_le ev (by decide)] at hprimary hother ⊢
      rw [eval_fallback ev hd hp.printed hq.printed b b', hprimary, hother, Formula.value]
      exact (apply_ite Except.ok _ _ _).symm
    | group hplace b b' h =>
      have hinner := part h (by simp only [bracketed, List.length_cons, List.length_append]; omega)
      rw [readAt_of_le ev hplace, eval_bracketed ev hd h.printed b b']
      exact hinner
    | parentheses hplace b b' hlt h =>
      have hinner := part h (by simp only [bracketed, List.length_cons, List.length_append]; omega)
      rw [readAt_of_le ev hplace, eval_bracketed ev hd h.printed b b']
      exact hinner

/-- Text that does not begin with a dollar sign is no template, and trimming takes off no more than
what stands around it. -/
theorem stripTemplate_of_tight {t : List Char} (h : Tight t) (hdollar : t.head? ≠ some '$')
    (b b' : Blanks) : stripTemplate (b ++ (t ++ b')) = t := by
  have hno : dropPrefix? ['$', '\x7b'] t = none := by
    obtain ⟨c, rest, rfl, -⟩ := h.first
    have hc : '$' ≠ c := by
      rintro rfl
      exact hdollar rfl
    simp [dropPrefix?, hc]
  simp only [stripTemplate, h.trim_pad b.2 b'.2, hno, Option.bind_none]

/-- A balanced text that is neither a template nor empty is evaluated at the outermost level. -/
theorem tryEvaluate_of_tight (ev : Evaluator) {t : List Char} (h : Tight t)
    (hdollar : t.head? ≠ some '$') (hbalanced : Balance.check t = .ok ()) (b b' : Blanks) :
    ev.tryEvaluate (String.ofList (b ++ (t ++ b'))) = ev.eval 0 t := by
  have hnonempty : ¬ t.isEmpty = true := by simpa using h.ne_nil
  simp only [tryEvaluate, String.toList_ofList, stripTemplate_of_tight h hdollar,
    if_neg hnonempty, hbalanced]

/-- The text of a formula is evaluated to its value, whatever blank characters stand around it
and in it. -/
theorem tryEvaluate_printed (context : Context) {f : Formula} {t : List Char}
    (h : Prints .whole f t) (b b' : Blanks) {maxDepth : Nat}
    (hdepth : (String.ofList t).utf8ByteSize + 1 ≤ maxDepth) :
    (⟨context, ⟨maxDepth⟩⟩ : Evaluator).tryEvaluate (String.ofList (b ++ (t ++ b')))
      = .ok (f.value context) := by
  have hprinted := h.printed
  have hbytes := length_le_utf8ByteSize t
  have hvalue : (⟨context, ⟨maxDepth⟩⟩ : Evaluator).readAt .whole 0 t = .ok (f.value context) :=
    readAt_of_prints _ h (by simp only; omega)
  have hdollar : t.head? ≠ some '$' := fun hc => hprinted.first '$' hc (by decide)
  rw [tryEvaluate_of_tight _ hprinted.tight hdollar hprinted.closed.balanced]
  exact hvalue

/-- **Precedence.**  Every formula of the grammar has texts, with parentheses only where
precedence asks for them, and every one of its texts, with any blank characters around it and in
it, has the value of the formula: in every context, and under every limit above its length in
bytes. -/
theorem tryEvaluate_of_prints (context : Context) {f : Formula} (hf : f.Formed false) :
    (∃ t, Prints .whole f t) ∧
      ∀ t, Prints .whole f t → ∀ (b b' : Blanks) (maxDepth : Nat),
        (String.ofList t).utf8ByteSize + 1 ≤ maxDepth →
        (⟨context, ⟨maxDepth⟩⟩ : Evaluator).tryEvaluate (String.ofList (b ++ (t ++ b')))
          = .ok (f.value context) :=
  ⟨hf.exists_prints rfl, fun _ h b b' _ hdepth => tryEvaluate_printed context h b b' hdepth⟩

/-- A negation under `&&`, a comparison of a call, and a ternary around them. -/
theorem tryEvaluate_printed_rule :
    (⟨{}, ⟨64⟩⟩ : Evaluator).tryEvaluate " !x&& isEmpty(y)==true ?'a':null"
      = .ok (some (.string "a")) := by
  let space : Blanks := ⟨[' '], by decide⟩
  let x : Literal := .path ⟨['x'], [], by decide, by decide⟩
  let y : Literal := .path ⟨['y'], [], by decide, by decide⟩
  let a : Literal := .string '\'' ['a'] rfl (by simp [IsQuotable])
  have hcall := @Prints.call .isEmpty [(.literal y, ['y'])] ['y']
    (fun o ho => by rw [List.mem_singleton.mp ho]; exact .literal .whole y)
    (.list .none .none (.one ['y']))
  have hcomparison := Prints.comparison (by decide : Place.conjunct ≤ .negated) .eq .none .none
    hcall (.literal .side (.bool true))
  have hnegation := Prints.negation (by decide : Place.conjunct ≤ .negated) .none
    (.literal .negated x)
  have hlogical := @Prints.logical .disjunct .conjunction (by decide) [(_, _), (_, _)] _
    (Nat.le_refl 2)
    (List.forall_mem_cons.mpr ⟨hnegation, List.forall_mem_singleton.mpr hcomparison⟩)
    (.cons _ .none space (.one _))
  have hternary := Prints.ternary (by decide : Place.whole ≤ .branch) space .none .none .none
    hlogical (.literal .branch a) (.literal .branch .null)
  have hsides := Formula.Formed.comparison .eq
    (.call .isEmpty (List.forall_mem_singleton.mpr (.literal false y))) (.literal true (.bool true))
  have hcondition := @Formula.Formed.logical .conjunction [_, _] (Nat.le_refl 2)
    (List.forall_mem_cons.mpr
      ⟨.negation (.literal false x), List.forall_mem_singleton.mpr hsides⟩)
  have hformed := Formula.Formed.ternary hcondition (.literal false a) (.literal false .null)
  exact (tryEvaluate_of_prints {} hformed).2 _ hternary space .none 64 (by decide)

end Evaluator

end FormLogic
