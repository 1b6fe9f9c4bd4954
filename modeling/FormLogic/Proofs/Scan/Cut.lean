import FormLogic.Proofs.Scan.Frame
import FormLogic.Scan.Split

/-!
# Where a text is cut

A text is cut at an operator that stands between closed texts, and nowhere else as long as the
operator's first character does not stand at the top level of these.  A ternary is taken apart
at its own question mark and colon when the text between them is passed over as a whole
(`Transparent`).  Balanced text in parentheses is a group.
-/

namespace FormLogic.Scan

/-! ## 1. Operators -/

section Split

variable {o : Char} {os : List Char}

/-- Nothing is cut where the first character of the operator is at the top level nowhere. -/
theorem splitFrom_append {s : State} {escaped : Bool} {a : List Char}
    (h : (o, true) ∉ marksFrom s escaped a) (b : List Char) :
    splitFrom (o :: os) s escaped 0 (a ++ b)
      = (splitFrom (o :: os) (s.run escaped a) (escapedAfter escaped a) 0 b).modifyHead
          (a ++ ·) := by
  induction a generalizing s escaped with
  | nil =>
    simp only [List.nil_append, State.run, escapedAfter]
    cases splitFrom (o :: os) s escaped 0 b <;> rfl
  | cons c a ih =>
    obtain ⟨hc, ha⟩ := not_or.mp (mt List.mem_cons.mpr h)
    have hno : ((s.step escaped c).atTop && (o :: os).isPrefixOf (c :: (a ++ b))) = false := by
      by_cases ho : o = c
      · have htop : (s.step escaped c).atTop = false := by
          simpa [ho] using hc
        simp [htop]
      · simp [List.isPrefixOf, ho]
    simp only [List.cons_append, splitFrom, hno, ih ha, Bool.false_eq_true, if_false]
    cases hrest : splitFrom (o :: os) ((s.step escaped c).run (c == '\\') a)
        (escapedAfter (c == '\\') a) 0 b with
    | nil => exact absurd hrest (length_splitFrom ..).1
    | cons piece pieces =>
      simp only [State.run, escapedAfter, hrest, List.modifyHead]

theorem splitFrom_of_unquoted {cs : List Char} (h : Unquoted cs) (s : State) (escaped : Bool) :
    splitFrom (o :: os) s escaped 0 cs = splitFrom (o :: os) s false 0 cs := by
  cases cs with
  | nil => rfl
  | cons c cs =>
    have hstep : s.step escaped c = s.step false c := by
      simp [State.step, h c rfl]
    simp only [splitFrom, hstep]

theorem split_append_left {a b : List Char} (ha : Balance.check a = .ok ()) (h : o ∉ topText a)
    (hb : Unquoted b) : split (o :: os) (a ++ b) = (split (o :: os) b).modifyHead (a ++ ·) := by
  rw [split, splitFrom_append (by rwa [mem_topText] at h), run_start_of_balanced ha,
    splitFrom_of_unquoted hb]
  rfl

/-- A text without the first character of the operator at the top level is one piece. -/
theorem split_of_not_mem {cs : List Char} (h : o ∉ topText cs) : split (o :: os) cs = [cs] := by
  rw [mem_topText] at h
  have hcut : splitFrom (o :: os) .start false 0 (cs ++ []) = _ := splitFrom_append h []
  simpa [split, splitFrom] using hcut

/-- The rest of an operator is passed over. -/
theorem splitFrom_skip (op : List Char) (s : State) (escaped : Bool) (passed b : List Char) :
    splitFrom op s escaped passed.length (passed ++ b)
      = splitFrom op s (escapedAfter escaped passed) 0 b := by
  induction passed generalizing escaped with
  | nil => rfl
  | cons c passed ih =>
    simp only [List.length_cons, List.cons_append, splitFrom]
    exact ih (c == '\\')

/-- An operator at the top level is cut off, whether or not a backslash stands before it. -/
theorem splitFrom_operator (hop : Plain (o :: os)) (escaped : Bool) (b : List Char) :
    splitFrom (o :: os) .start escaped 0 ((o :: os) ++ b) = [] :: split (o :: os) b := by
  have ho : isPlain o = true := hop o List.mem_cons_self
  have hstep : State.start.step escaped o = .start := State.step_of_plain ho 0 escaped
  have hunescaped : escapedAfter false (o :: os) = false := (Closed.of_plain hop).unescaped
  have hop : (State.start.atTop && (o :: os).isPrefixOf (o :: (os ++ b))) = true := by
    simp [State.atTop, State.start, List.isPrefixOf]
  simp only [split, List.cons_append, splitFrom, hstep, hop, if_true, List.length_cons,
    Nat.add_sub_cancel, splitFrom_skip]
  rw [escapedAfter] at hunescaped
  rw [hunescaped]

/-- **An operator after balanced text ends the first piece.** -/
theorem split_append (hop : Plain (o :: os)) {a : List Char} (ha : Balance.check a = .ok ())
    (h : o ∉ topText a) (b : List Char) :
    split (o :: os) (a ++ ((o :: os) ++ b)) = a :: split (o :: os) b := by
  rw [split, splitFrom_append (by rwa [mem_topText] at h), run_start_of_balanced ha,
    splitFrom_operator hop]
  simp

/-- Plain text in which the operator does not occur belongs to the first piece, where the text
behind it does not go on with the operator. -/
theorem split_plain_append {middle b : List Char} (hmiddle : Plain middle)
    (hno : ¬ (o :: os) <:+: middle) (hb : ∀ c ∈ b.head?, c ∉ o :: os) :
    split (o :: os) (middle ++ b) = (split (o :: os) b).modifyHead (middle ++ ·) := by
  induction middle with
  | nil =>
    rw [List.nil_append]
    cases split (o :: os) b <;> rfl
  | cons c middle ih =>
    have hstep : State.start.step false c = .start :=
      State.step_of_plain (hmiddle c List.mem_cons_self) 0 false
    have hnotPrefix : (o :: os).isPrefixOf (c :: (middle ++ b)) = false := by
      rw [Bool.eq_false_iff]
      intro hp
      have hp : (o :: os) <+: (c :: middle) ++ b := List.isPrefixOf_iff_prefix.mp hp
      have hm : (c :: middle) <+: (c :: middle) ++ b := List.prefix_append _ b
      rcases Nat.le_total (o :: os).length (c :: middle).length with hle | hle
      · exact hno (List.prefix_of_prefix_length_le hp hm hle).isInfix
      · -- the operator would end in `b`
        obtain ⟨tail, htail⟩ := List.prefix_of_prefix_length_le hm hp hle
        rw [← htail, List.prefix_append_right_inj] at hp
        cases tail with
        | nil => exact hno (by rw [← htail]; simp)
        | cons d tail =>
          obtain ⟨more, rfl⟩ := hp
          exact hb d (by simp) (by rw [← htail]; simp)
    have ih := ih (fun d hd => hmiddle d (List.mem_cons_of_mem _ hd))
      (fun h => hno (List.infix_cons h))
    have hunescaped := isPlain_ne_backslash (hmiddle c List.mem_cons_self)
    cases hpieces : split (o :: os) b with
    | nil => exact absurd hpieces (split_ne_nil _ b)
    | cons piece pieces =>
      rw [hpieces] at ih
      rw [split] at ih ⊢
      simp only [List.cons_append, splitFrom, hstep, hnotPrefix, Bool.and_false,
        Bool.false_eq_true, if_false, hunescaped, ih, List.modifyHead]

/-- **Another operator is no cut.**  Plain text in which the operator does not occur belongs to
the first piece where it stands between balanced text and text that does not go on with the
operator. -/
theorem split_append_middle {a middle b : List Char} (ha : Balance.check a = .ok ())
    (hta : o ∉ topText a) (hne : middle ≠ []) (hmiddle : Plain middle)
    (hno : ¬ (o :: os) <:+: middle) (hb : ∀ c ∈ b.head?, c ∉ o :: os) :
    split (o :: os) (a ++ (middle ++ b))
      = (split (o :: os) b).modifyHead fun piece => a ++ (middle ++ piece) := by
  rw [split_append_left ha hta (unquoted_of_plain_append hmiddle hne b),
    split_plain_append hmiddle hno hb, List.modifyHead_modifyHead]
  rfl

theorem split_of_not_infix {a middle b : List Char} (ha : Balance.check a = .ok ())
    (hta : o ∉ topText a) (hne : middle ≠ []) (hmiddle : Plain middle)
    (hno : ¬ (o :: os) <:+: middle) (hb : ∀ c ∈ b.head?, c ∉ o :: os) (htb : o ∉ topText b) :
    split (o :: os) (a ++ (middle ++ b)) = [a ++ (middle ++ b)] := by
  rw [split_append_middle ha hta hne hmiddle hno hb, split_of_not_mem htb]
  rfl

theorem sides?_append (hop : Plain (o :: os)) {a b : List Char} (ha : Balance.check a = .ok ())
    (hta : o ∉ topText a) (htb : o ∉ topText b) :
    sides? (o :: os) (a ++ ((o :: os) ++ b)) = some (a, b) := by
  simp only [sides?, split_append hop ha hta, split_of_not_mem htb]

theorem sides?_of_not_mem {cs : List Char} (h : o ∉ topText cs) : sides? (o :: os) cs = none := by
  simp only [sides?, split_of_not_mem h]

theorem sides?_of_length_ne {op cs : List Char} (h : (split op cs).length ≠ 2) :
    sides? op cs = none := by
  unfold sides?
  split
  · next heq => exact absurd (by rw [heq]; rfl) h
  · rfl

end Split

/-! ## 2. Ternaries -/

/-- A mark other than that of `c` at the top level. -/
theorem not_mark {c d : Char} {top : Bool} (h : ¬ (c, true) = (d, top)) :
    (top && d == c) = false := by
  cases top with
  | false => rfl
  | true =>
    rw [Bool.true_and, beq_eq_false_iff_ne]
    rintro rfl
    exact h rfl

theorem breakAtTop_append {c : Char} {ms : List (Char × Bool)} (h : (c, true) ∉ ms)
    (rest : List (Char × Bool)) :
    breakAtTop c (ms ++ (c, true) :: rest) = some (ms.map Prod.fst, rest) := by
  induction ms with
  | nil => simp [breakAtTop]
  | cons m ms ih =>
    obtain ⟨hm, hms⟩ := not_or.mp (mt List.mem_cons.mpr h)
    obtain ⟨d, top⟩ := m
    have hno := not_mark hm
    simp [breakAtTop, hno, ih hms]

theorem breakAtTop_eq_some_iff {c : Char} {ms after : List (Char × Bool)} {before : List Char} :
    breakAtTop c ms = some (before, after) ↔
      ∃ passed, ms = passed ++ (c, true) :: after ∧ (c, true) ∉ passed ∧
        before = passed.map Prod.fst := by
  constructor
  · intro h
    induction ms generalizing before with
    | nil => simp [breakAtTop] at h
    | cons m ms ih =>
      obtain ⟨d, top⟩ := m
      simp only [breakAtTop] at h
      split at h
      · next hd =>
        obtain ⟨rfl, rfl⟩ : top = true ∧ d = c := by simpa using hd
        simp only [Option.some.injEq, Prod.mk.injEq] at h
        obtain ⟨rfl, rfl⟩ := h
        exact ⟨[], rfl, List.not_mem_nil, rfl⟩
      · next hd =>
        obtain ⟨⟨b, a⟩, hb, h⟩ := Option.map_eq_some_iff.mp h
        simp only [Prod.mk.injEq] at h
        obtain ⟨rfl, rfl⟩ := h
        obtain ⟨passed, rfl, hpassed, rfl⟩ := ih hb
        refine ⟨(d, top) :: passed, rfl, ?_, rfl⟩
        rw [List.mem_cons, not_or]
        exact ⟨fun heq => hd (by simp [Prod.mk.inj heq]), hpassed⟩
  · rintro ⟨passed, rfl, hpassed, rfl⟩
    exact breakAtTop_append hpassed after

theorem breakAtColon_eq_none {nested : Nat} {ms : List (Char × Bool)} (h : (':', true) ∉ ms) :
    breakAtColon nested ms = none := by
  induction ms generalizing nested with
  | nil => rfl
  | cons m ms ih =>
    obtain ⟨hm, hms⟩ := not_or.mp (mt List.mem_cons.mpr h)
    obtain ⟨d, top⟩ := m
    have hno := not_mark hm
    simp [breakAtColon, hno, ih hms]

/-- A text without a colon at the top level is no ternary. -/
theorem ternary?_of_not_mem {cs : List Char} (h : ':' ∉ topText cs) : ternary? cs = none := by
  rw [mem_topText] at h
  simp only [ternary?]
  cases hq : breakAtTop '?' (marks cs) with
  | none => rfl
  | some found =>
    obtain ⟨before, after⟩ := found
    obtain ⟨passed, hms, -, -⟩ := breakAtTop_eq_some_iff.mp hq
    have hafter : (':', true) ∉ after := fun hm => h (hms ▸ by simp [hm])
    simp [breakAtColon_eq_none hafter]

/-- Nor is a text without a question mark there. -/
theorem ternary?_of_no_question {cs : List Char} (h : '?' ∉ topText cs) : ternary? cs = none := by
  rw [mem_topText] at h
  have hnone : breakAtTop '?' (marks cs) = none := by
    rw [Option.eq_none_iff_forall_ne_some]
    rintro ⟨before, after⟩ hfound
    obtain ⟨passed, hms, -, -⟩ := breakAtTop_eq_some_iff.mp hfound
    exact h (by simp [hms])
  rw [ternary?, hnone]
  rfl

/-- Nor is a text one after whose first question mark no colon is left over. -/
theorem ternary?_eq_none {cs rest : List Char} (hclosed : Closed cs) (hquestion : '?' ∉ topText cs)
    (h : breakAtColon 0 (marks rest) = none) : ternary? (cs ++ ('?' :: rest)) = none := by
  rw [mem_topText] at hquestion
  rw [ternary?, marks_append hclosed, marks_cons_of_plain (by decide),
    breakAtTop_append hquestion]
  simp [h]

/-- A question mark and a colon between balanced texts are at the top level; the last text may be
anything. -/
theorem marks_ternary {c a : List Char} (hc : Balance.check c = .ok ())
    (ha : Balance.check a = .ok ()) (b : List Char) :
    marks (c ++ ('?' :: (a ++ (':' :: b))))
      = marks c ++ (('?', true) :: (marks a ++ ((':', true) :: marks b))) := by
  have hmark : ∀ {d : Char}, isPlain d = true → ∀ cs, Unquoted (d :: cs) := fun hd cs =>
    unquoted_of_plain_before (List.forall_mem_nil _) hd cs
  rw [marks_append_of_unquoted hc (hmark (by decide) _), marks_cons_of_plain (by decide),
    marks_append_of_unquoted ha (hmark (by decide) _), marks_cons_of_plain (by decide)]

/-- **Text that the search for a colon passes over**: every colon in it belongs to a question
mark in it. -/
def Transparent (cs : List Char) : Prop :=
  ∀ nested rest, breakAtColon nested (marks cs ++ rest)
    = (breakAtColon nested rest).map fun (before, after) => (cs ++ before, after)

namespace Transparent

theorem append {a b : List Char} (hclosed : Closed a) (ha : Transparent a)
    (hb : Transparent b) : Transparent (a ++ b) := by
  intro nested rest
  rw [marks_append hclosed, List.append_assoc, ha, hb, Option.map_map]
  simp [Function.comp_def]

theorem of_not_mem {cs : List Char} (hq : '?' ∉ topText cs) (hc : ':' ∉ topText cs) :
    Transparent cs := by
  intro nested rest
  rw [mem_topText] at hq hc
  have key : ∀ ms : List (Char × Bool), ('?', true) ∉ ms → (':', true) ∉ ms →
      breakAtColon nested (ms ++ rest)
        = (breakAtColon nested rest).map fun (before, after) =>
            (ms.map Prod.fst ++ before, after) := by
    intro ms
    induction ms with
    | nil => simp
    | cons m ms ih =>
      intro hq hc
      obtain ⟨hq, hqs⟩ := not_or.mp (mt List.mem_cons.mpr hq)
      obtain ⟨hc, hcs⟩ := not_or.mp (mt List.mem_cons.mpr hc)
      obtain ⟨d, top⟩ := m
      have hnq := not_mark hq
      have hnc := not_mark hc
      simp [breakAtColon, hnq, hnc, ih hqs hcs, Option.map_map, Function.comp_def]
  simpa using key (marks cs) hq hc

/-- A ternary is passed over: its question mark and its colon cancel. -/
theorem ternary {c a b : List Char} (hc : Closed c) (hcq : '?' ∉ topText c)
    (hcc : ':' ∉ topText c) (ha : Closed a) (hta : Transparent a) (htb : Transparent b) :
    Transparent (c ++ ('?' :: (a ++ (':' :: b)))) := by
  intro nested rest
  rw [marks_ternary hc.balanced ha.balanced, List.append_assoc, of_not_mem hcq hcc]
  simp [breakAtColon, hta _ _, htb _ _, Option.map_map, Function.comp_def]

end Transparent

/-- **A ternary is cut at its own question mark and colon.** -/
theorem ternary?_append {c a : List Char} (hc : Closed c) (hcq : '?' ∉ topText c)
    (ha : Closed a) (hta : Transparent a) (b : List Char) :
    ternary? (c ++ ('?' :: (a ++ (':' :: b))))
      = some ⟨Text.trim c, Text.trim a, Text.trim b⟩ := by
  have hquestion := breakAtTop_append (by rwa [mem_topText] at hcq)
    (marks a ++ ((':', true) :: marks b))
  have hcolon := hta 0 ((':', true) :: marks b)
  simp only [breakAtColon, Bool.true_and, beq_self_eq_true, if_true, map_fst_marks] at hcolon
  simp [ternary?, marks_ternary hc.balanced ha.balanced, hquestion, hcolon]

/-! ## 3. Groups -/

/-- **Balanced text in parentheses is a group.** -/
theorem group?_parens {cs : List Char} (h : Balance.check cs = .ok ()) :
    group? ('(' :: (cs ++ [')'])) = some cs := by
  obtain ⟨inside, -, hmarks, hinside⟩ := marks_enclosed .round h
  have hdrop : ('(' :: (cs ++ [')'])).dropLast = '(' :: cs := by
    rw [← List.cons_append, List.dropLast_concat]
  simp only [group?, hdrop, hmarks]
  rw [if_pos ⟨by simp, hinside⟩]
  simp

/-- Balanced text is at the top level after its last character. -/
theorem exists_atTop_of_balanced {cs : List Char} (hne : cs ≠ []) (h : Balance.check cs = .ok ()) :
    ∃ m ∈ marks cs, m.2 = true := by
  obtain ⟨start, c, rfl⟩ := List.eq_nil_or_concat cs |>.resolve_left hne
  have hrun := run_start_of_balanced h
  rw [List.concat_eq_append, State.run_append, State.run, State.run] at hrun
  refine ⟨(c, true), ?_, rfl⟩
  rw [List.concat_eq_append, marks, marksFrom_append, marksFrom, hrun]
  exact List.mem_append_right _ List.mem_cons_self

/-- **Text after balanced text is in no group with it.** -/
theorem group?_append {a b : List Char} (ha : a ≠ []) (hbalanced : Balance.check a = .ok ())
    (hb : b ≠ []) : group? (a ++ b) = none := by
  obtain ⟨m, hm, htop⟩ := exists_atTop_of_balanced ha hbalanced
  have hmem : m ∈ marks (a ++ b).dropLast := by
    rw [List.dropLast_append_of_ne_nil hb, marks, marksFrom_append]
    exact List.mem_append_left _ hm
  unfold group?
  split
  · refine if_neg ?_
    rintro ⟨-, hinside⟩
    rw [hinside m hmem] at htop
    exact Bool.noConfusion htop
  · rfl

theorem group?_of_head_ne {cs : List Char} (h : cs.head? ≠ some '(') : group? cs = none := by
  unfold group?
  split
  · simp at h
  · rfl

end FormLogic.Scan
