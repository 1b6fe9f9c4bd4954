import FormLogic.Proofs.Scan.Cut

/-!
# Cutting at an operator and joining again

An operator occurs at the top level of a text where nothing is open, counted from the beginning of
the text (`OccursAt`).  The pieces of a text are cut off one by one at the first of these places
(`Cuts`): a piece is no longer cut itself, and behind the operator the rest is cut like a text of
its own.  So the pieces joined by the operator are the text again, and pieces that are joined are
cut apart again, as long as the operator does not occur before the place where it was put
(`split_join`).
-/

namespace FormLogic.Scan

/-! ## 1. Top-level occurrences -/

namespace State

theorem eq_start_of_atTop {s : State} (h : s.atTop = true) : s = .start := by
  obtain ⟨depth, openQuote⟩ := s
  obtain ⟨hdepth, hquote⟩ : depth = 0 ∧ openQuote = none := by simpa [atTop] using h
  rw [hdepth, hquote]
  rfl

/-- A plain character moves neither to the top level nor away from it. -/
theorem atTop_of_step {s : State} {escaped : Bool} {c : Char} (hc : isPlain c = true)
    (h : (s.step escaped c).atTop = true) : s = .start := by
  obtain ⟨depth, openQuote⟩ := s
  cases openQuote with
  | none =>
    rw [step_of_plain hc] at h
    exact eq_start_of_atTop h
  | some q => simp [step, (isPlain_eq hc).1, atTop] at h

end State

/-- The operator stands behind the first `n` characters of a text, and nothing is open there when
the scanner comes to the text in the state `s`. -/
def OccursFrom (s : State) (escaped : Bool) (op cs : List Char) (n : Nat) : Prop :=
  (s.run escaped (cs.take n)).atTop = true ∧ op <+: cs.drop n

instance (s : State) (escaped : Bool) (op cs : List Char) (n : Nat) :
    Decidable (OccursFrom s escaped op cs n) := inferInstanceAs (Decidable (_ ∧ _))

/-- **The operator occurs at the top level** of a text, behind its first `n` characters. -/
abbrev OccursAt (op cs : List Char) (n : Nat) : Prop := OccursFrom .start false op cs n

section Occurrences

variable {op : List Char} {s : State} {escaped : Bool}

theorem occursFrom_append {a b : List Char} (h : (s.run escaped a).atTop = true) :
    OccursFrom s escaped op (a ++ (op ++ b)) a.length := by
  simp [OccursFrom, h]

theorem OccursFrom.lt {cs : List Char} {n : Nat} (h : OccursFrom s escaped op cs n)
    (hop : op ≠ []) : n < cs.length := by
  have hpos := List.length_pos_iff.mpr hop
  have hle := h.2.length_le
  rw [List.length_drop] at hle
  omega

end Occurrences

/-! ## 2. The pieces of a text -/

section Pieces

variable {o : Char} {os : List Char}

/-- **The first cut.**  A text is its own only piece, or its first piece, which is not cut itself,
ends where the operator occurs at the top level, and the rest is cut like a text of its own. -/
theorem splitFrom_cases (hop : Plain (o :: os)) (s : State) (escaped : Bool) (cs : List Char) :
    splitFrom (o :: os) s escaped 0 cs = [cs] ∨
      ∃ a b, cs = a ++ ((o :: os) ++ b) ∧ s.run escaped a = .start ∧
        splitFrom (o :: os) s escaped 0 a = [a] ∧
        splitFrom (o :: os) s escaped 0 cs = a :: split (o :: os) b := by
  induction cs generalizing s escaped with
  | nil => exact .inl rfl
  | cons c cs ih =>
    by_cases hcut : (s.step escaped c).atTop = true ∧ (o :: os) <+: c :: cs
    · obtain ⟨htop, b, hb⟩ := hcut
      obtain ⟨rfl, rfl⟩ := List.cons.inj hb
      obtain rfl := State.atTop_of_step (hop _ List.mem_cons_self) htop
      exact .inr ⟨[], b, rfl, rfl, rfl, splitFrom_operator hop escaped b⟩
    · have hno : ∀ ds, ds <+: cs →
          ((s.step escaped c).atTop && (o :: os).isPrefixOf (c :: ds)) = false := by
        intro ds hds
        rw [Bool.eq_false_iff]
        intro h
        obtain ⟨htop, hp⟩ := Bool.and_eq_true_iff.mp h
        exact hcut ⟨htop, (List.isPrefixOf_iff_prefix.mp hp).trans
          ((List.prefix_cons_inj c).mpr hds)⟩
      simp only [splitFrom, hno cs (List.prefix_refl cs), Bool.false_eq_true, if_false]
      rcases ih (s.step escaped c) (c == '\\') with h | ⟨a, b, rfl, htop, ha, h⟩
      · exact .inl (by rw [h])
      · refine .inr ⟨c :: a, b, rfl, htop, ?_, by rw [h]⟩
        simp only [splitFrom, hno a (List.prefix_append a _), Bool.false_eq_true, if_false, ha]

/-- **How a text is cut into pieces.** -/
inductive Cuts (op : List Char) : List Char → List (List Char) → Prop where
  | whole {cs : List Char} : split op cs = [cs] → Cuts op cs [cs]
  | cut {a b : List Char} {pieces : List (List Char)} :
      State.start.run false a = .start → split op a = [a] → Cuts op b pieces →
      Cuts op (a ++ (op ++ b)) (a :: pieces)

theorem cuts_split (hop : Plain (o :: os)) (cs : List Char) :
    Cuts (o :: os) cs (split (o :: os) cs) := by
  induction hn : cs.length using Nat.strongRecOn generalizing cs with
  | ind n ih =>
    subst hn
    rcases splitFrom_cases hop .start false cs with hwhole | ⟨a, b, rfl, htop, ha, hcut⟩
    · rw [split, hwhole]
      exact .whole hwhole
    · rw [split, hcut]
      have hshorter : b.length < (a ++ ((o :: os) ++ b)).length := by
        simp only [List.length_append, List.length_cons]
        omega
      exact .cut htop ha (ih b.length hshorter b rfl)

namespace Cuts

variable {op cs : List Char} {pieces : List (List Char)}

theorem ne_nil (h : Cuts op cs pieces) : pieces ≠ [] := by
  cases h <;> exact List.cons_ne_nil _ _

/-- **Nothing is lost.** -/
theorem intercalate_eq (h : Cuts op cs pieces) : op.intercalate pieces = cs := by
  induction h with
  | whole => exact List.intercalate_singleton
  | cut _ _ hrest ih =>
    rw [List.intercalate_cons_of_ne_nil hrest.ne_nil, ih, List.append_assoc]

/-- Pieces are not cut again. -/
theorem split_eq (h : Cuts op cs pieces) {p : List Char} (hp : p ∈ pieces) :
    split op p = [p] := by
  induction h with
  | whole hwhole => rwa [List.mem_singleton.mp hp]
  | cut _ ha _ ih =>
    rcases List.mem_cons.mp hp with rfl | hp
    · exact ha
    · exact ih hp

/-- What occurs behind the first cut occurs in the whole text. -/
theorem occursAt_behind (hop : Plain (o :: os)) {a b : List Char}
    (ha : State.start.run false a = .start) {n : Nat} (h : OccursAt (o :: os) b n) :
    OccursAt (o :: os) (a ++ ((o :: os) ++ b)) (a.length + ((o :: os).length + n)) := by
  have hunescaped : escapedAfter (escapedAfter false a) (o :: os) = false :=
    escapedAfter_of_plain hop
  obtain ⟨htop, hstands⟩ := h
  refine ⟨?_, ?_⟩
  · rw [List.take_length_add_append, List.take_length_add_append, State.run_append, ha,
      State.run_append, State.start, State.run_of_plain hop, hunescaped]
    exact htop
  · rw [List.drop_length_add_append, List.drop_length_add_append]
    exact hstands

/-- **Every cut is at the top level of the whole text.** -/
theorem occursAt (hop : Plain (o :: os)) (h : Cuts (o :: os) cs pieces)
    {ps qs : List (List Char)} (hpieces : pieces = ps ++ qs) (hps : ps ≠ []) (hqs : qs ≠ []) :
    OccursAt (o :: os) cs ((o :: os).intercalate ps).length := by
  induction h generalizing ps with
  | whole =>
    rcases List.cons_eq_append_iff.mp hpieces with ⟨rfl, -⟩ | ⟨ps', rfl, hnil⟩
    · exact absurd rfl hps
    · exact absurd (List.append_eq_nil_iff.mp hnil.symm).2 hqs
  | cut ha _ _ ih =>
    rcases List.cons_eq_append_iff.mp hpieces with ⟨rfl, -⟩ | ⟨ps', rfl, hrest⟩
    · exact absurd rfl hps
    · by_cases hps' : ps' = []
      · subst hps'
        rw [List.intercalate_singleton]
        exact occursFrom_append (by rw [ha]; rfl)
      · rw [List.intercalate_cons_of_ne_nil hps', List.append_assoc, List.length_append,
          List.length_append]
        exact occursAt_behind hop ha (ih hrest hps')

end Cuts

/-! ## 3. Joined pieces -/

theorem split_eq_singleton (hop : Plain (o :: os)) {cs : List Char}
    (h : ∀ n, ¬ OccursAt (o :: os) cs n) : split (o :: os) cs = [cs] := by
  rcases splitFrom_cases hop .start false cs with hwhole | ⟨a, b, rfl, htop, -⟩
  · exact hwhole
  · exact absurd (occursFrom_append (by rw [htop]; rfl)) (h a.length)

/-- **The first place is the one meant.**  Where the operator occurs nowhere before the end of a
text, the text is the first piece when the operator is put behind it. -/
theorem splitFrom_append_of_only (hop : Plain (o :: os)) {s : State} {escaped : Bool}
    {p : List Char} (htop : s.run escaped p = .start)
    (honly : ∀ n, OccursFrom s escaped (o :: os) (p ++ (o :: os)) n → n = p.length)
    (rest : List Char) :
    splitFrom (o :: os) s escaped 0 (p ++ ((o :: os) ++ rest)) = p :: split (o :: os) rest := by
  induction p generalizing s escaped with
  | nil =>
    obtain rfl : s = .start := htop
    exact splitFrom_operator hop escaped rest
  | cons c p ih =>
    have hno : ((s.step escaped c).atTop
        && (o :: os).isPrefixOf (c :: (p ++ ((o :: os) ++ rest)))) = false := by
      rw [Bool.eq_false_iff]
      intro h
      obtain ⟨hafter, hp⟩ := Bool.and_eq_true_iff.mp h
      -- what stands here ends before the operator behind the text does
      have hstands : (o :: os) <+: (c :: p) ++ (o :: os) := by
        refine List.prefix_of_prefix_length_le (List.isPrefixOf_iff_prefix.mp hp) ⟨rest, by simp⟩ ?_
        rw [List.length_append]
        exact Nat.le_add_left _ _
      obtain rfl : o = c := (List.cons_prefix_cons.mp hstands).1
      obtain rfl := State.atTop_of_step (hop _ List.mem_cons_self) hafter
      exact absurd (honly 0 ⟨rfl, hstands⟩) (by simp)
    have hrest := ih htop fun n hn => Nat.succ.inj (honly (n + 1) hn)
    rw [List.cons_append]
    simp only [splitFrom, hno, hrest, Bool.false_eq_true, if_false]

theorem split_intercalate (hop : Plain (o :: os)) {ps : List (List Char)} {last : List Char}
    (hps : ∀ p ∈ ps, Balance.check p = .ok () ∧
      ∀ n, OccursAt (o :: os) (p ++ (o :: os)) n → n = p.length)
    (hlast : ∀ n, ¬ OccursAt (o :: os) last n) :
    split (o :: os) ((o :: os).intercalate (ps ++ [last])) = ps ++ [last] := by
  induction ps with
  | nil =>
    rw [List.nil_append, List.intercalate_singleton]
    exact split_eq_singleton hop hlast
  | cons p ps ih =>
    obtain ⟨hbalanced, honly⟩ := hps p List.mem_cons_self
    rw [List.cons_append, List.intercalate_cons_of_ne_nil (by simp), List.append_assoc, split,
      splitFrom_append_of_only hop (run_start_of_balanced hbalanced) honly,
      ih fun q hq => hps q (List.mem_cons_of_mem _ hq)]

end Pieces

/-- **Cutting loses nothing, cuts at the top level only, and cuts wherever it should.**  The pieces
joined by the operator are the text; each cut is where the operator occurs at the top level of the
whole text; no piece is cut again.  And whatever balanced pieces are joined, they come apart again
when behind each of them the operator occurs first where it was put, and in the last one nowhere. -/
theorem split_join {op : List Char} (hne : op ≠ []) (hop : Plain op) :
    (∀ cs, op.intercalate (split op cs) = cs ∧
      (∀ ps qs, split op cs = ps ++ qs → ps ≠ [] → qs ≠ [] →
        OccursAt op cs (op.intercalate ps).length) ∧
      ∀ p ∈ split op cs, split op p = [p]) ∧
    ∀ ps last,
      (∀ p ∈ ps, Balance.check p = .ok () ∧ ∀ n, OccursAt op (p ++ op) n → n = p.length) →
      (∀ n, ¬ OccursAt op last n) →
      split op (op.intercalate (ps ++ [last])) = ps ++ [last] := by
  obtain ⟨o, os, rfl⟩ := List.exists_cons_of_ne_nil hne
  refine ⟨fun cs => ?_, fun ps last => split_intercalate hop⟩
  have hcuts := cuts_split hop cs
  exact ⟨hcuts.intercalate_eq, fun ps qs => hcuts.occursAt hop, fun p => hcuts.split_eq⟩

/-- Three pieces, in which the operator stands in brackets and in a string literal; the second ends
in a backslash, and the last begins with half an operator. -/
theorem split_join_of_unusual_pieces :
    let op := "==".toList
    let pieces := ["(a==b) = ".toList, "'it\\'s ==' \\".toList]
    let last := "=c".toList
    (op ≠ [] ∧ Plain op) ∧
    (∀ p ∈ pieces, Balance.check p = .ok () ∧ ∀ n, OccursAt op (p ++ op) n → n = p.length) ∧
    (∀ n, ¬ OccursAt op last n) ∧
    split op "(a==b) = =='it\\'s ==' \\===c".toList = pieces ++ [last] := by
  intro op pieces last
  have hne : op ≠ [] := by decide
  have hplain : Plain op := by decide
  have honly : ∀ p, (∀ n < (p ++ op).length, OccursAt op (p ++ op) n → n = p.length) →
      ∀ n, OccursAt op (p ++ op) n → n = p.length := fun p h n hn => h n (hn.lt hne) hn
  have hpieces : ∀ p ∈ pieces,
      Balance.check p = .ok () ∧ ∀ n, OccursAt op (p ++ op) n → n = p.length := by
    rw [List.forall_mem_cons, List.forall_mem_singleton]
    exact ⟨⟨rfl, honly _ (by decide)⟩, rfl, honly _ (by decide)⟩
  have hlast : ∀ n, ¬ OccursAt op last n := fun n hn =>
    absurd hn ((by decide : ∀ n < last.length, ¬ OccursAt op last n) n (hn.lt hne))
  exact ⟨⟨hne, hplain⟩, hpieces, hlast, (split_join hne hplain).2 pieces last hpieces hlast⟩

end FormLogic.Scan
