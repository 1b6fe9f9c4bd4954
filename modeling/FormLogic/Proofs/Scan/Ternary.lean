import FormLogic.Proofs.Scan.Cut

/-!
# The colon that closes a ternary

Behind the first question mark at the top level, every further one opens a ternary of its own that
takes a colon first.  The search for the colon counts the question marks that wait (`Settles`); the
colon it takes is the first one at which the colons outnumber the question marks (`IsTernary`), and
a text whose question marks and colons nest like brackets (`Nests`) is passed over whole, however
deep it goes (`ternary?_iff`).
-/

namespace FormLogic.Scan

/-! ## 1. Question marks and colons -/

/-- At the top level of a marked text stand more colons than question marks. -/
def ColonsLead (ms : List (Char × Bool)) : Prop := ms.count ('?', true) < ms.count (':', true)

/-- **The question mark and the colon of a ternary**: the first question mark at the top level of a
marked text, and the first colon there with which, counted from behind that question mark, the
colons lead. -/
structure IsTernary (ms before middle after : List (Char × Bool)) : Prop where
  text : ms = before ++ ('?', true) :: (middle ++ (':', true) :: after)
  first : ('?', true) ∉ before
  leads : ColonsLead (middle ++ [(':', true)])
  not_sooner : ∀ p, p <+: middle → ¬ ColonsLead p

/-- **The question marks and colons at the top level nest like brackets.** -/
inductive Nests : List (Char × Bool) → Prop where
  | nil : Nests []
  | other {m : Char × Bool} {ms : List (Char × Bool)} :
      m ≠ ('?', true) → m ≠ (':', true) → Nests ms → Nests (m :: ms)
  | ternary {inside ms : List (Char × Bool)} :
      Nests inside → Nests ms → Nests (('?', true) :: (inside ++ (':', true) :: ms))

namespace Nests

variable {ms rest : List (Char × Bool)}

theorem of_not_mem (hq : ('?', true) ∉ ms) (hc : (':', true) ∉ ms) : Nests ms := by
  induction ms with
  | nil => exact .nil
  | cons m ms ih =>
    rw [List.mem_cons, not_or] at hq hc
    exact .other (Ne.symm hq.1) (Ne.symm hc.1) (ih hq.2 hc.2)

theorem append (h : Nests ms) (hrest : Nests rest) : Nests (ms ++ rest) := by
  induction h with
  | nil => exact hrest
  | other hq hc _ ih => exact .other hq hc ih
  | ternary hinside _ _ ih =>
    rw [List.cons_append, List.append_assoc, List.cons_append]
    exact .ternary hinside ih

end Nests

/-- **What the search for a colon passes over** while `nested` question marks wait: in the end each
of them has a colon, and so has each question mark of the text. -/
inductive Settles : Nat → List (Char × Bool) → Prop where
  | nil : Settles 0 []
  | question {nested : Nat} {ms : List (Char × Bool)} :
      Settles (nested + 1) ms → Settles nested (('?', true) :: ms)
  | colon {nested : Nat} {ms : List (Char × Bool)} :
      Settles nested ms → Settles (nested + 1) ((':', true) :: ms)
  | other {nested : Nat} {m : Char × Bool} {ms : List (Char × Bool)} :
      m ≠ ('?', true) → m ≠ (':', true) → Settles nested ms → Settles nested (m :: ms)

namespace Settles

variable {nested : Nat} {ms rest : List (Char × Bool)}

theorem append (h : Settles nested ms) {more : Nat} (hrest : Settles more rest) :
    Settles (nested + more) (ms ++ rest) := by
  induction h with
  | nil => simpa using hrest
  | question _ ih => exact .question (by rwa [Nat.add_right_comm] at ih)
  | colon _ ih =>
    rw [Nat.add_right_comm]
    exact .colon ih
  | other hq hc _ ih => exact .other hq hc ih

theorem of_nests (h : Nests ms) : Settles 0 ms := by
  induction h with
  | nil => exact .nil
  | other hq hc _ ih => exact .other hq hc ih
  | ternary _ _ ihinside ih => exact .question (ihinside.append (.colon ih))

theorem question_ne_colon : (('?', true) : Char × Bool) ≠ (':', true) := by decide

theorem count_eq (h : Settles nested ms) :
    ms.count (':', true) = ms.count ('?', true) + nested := by
  induction h with
  | nil => rfl
  | question _ ih =>
    rw [List.count_cons_self, List.count_cons_of_ne question_ne_colon, ih]
    omega
  | colon _ ih =>
    rw [List.count_cons_self, List.count_cons_of_ne question_ne_colon.symm, ih]
    omega
  | other hq hc _ ih => rw [List.count_cons_of_ne hc, List.count_cons_of_ne hq, ih]

/-- On the way there are never more colons than question marks to take them. -/
theorem count_le (h : Settles nested ms) {p : List (Char × Bool)} (hp : p <+: ms) :
    p.count (':', true) ≤ p.count ('?', true) + nested := by
  induction h generalizing p with
  | nil => simp [List.prefix_nil.mp hp]
  | question _ ih =>
    rcases List.prefix_cons_iff.mp hp with rfl | ⟨q, rfl, hq⟩
    · simp
    · have hbehind := ih hq
      rw [List.count_cons_self, List.count_cons_of_ne question_ne_colon]
      omega
  | colon _ ih =>
    rcases List.prefix_cons_iff.mp hp with rfl | ⟨q, rfl, hq⟩
    · simp
    · have hbehind := ih hq
      rw [List.count_cons_self, List.count_cons_of_ne question_ne_colon.symm]
      omega
  | other hquestion hcolon _ ih =>
    rcases List.prefix_cons_iff.mp hp with rfl | ⟨q, rfl, hq⟩
    · simp
    · rw [List.count_cons_of_ne hcolon, List.count_cons_of_ne hquestion]
      exact ih hq

/-- Counting is enough: the two bounds say that every question mark has its colon. -/
theorem of_count (heq : ms.count (':', true) = ms.count ('?', true) + nested)
    (hle : ∀ p, p <+: ms → p.count (':', true) ≤ p.count ('?', true) + nested) :
    Settles nested ms := by
  induction ms generalizing nested with
  | nil =>
    obtain rfl : nested = 0 := by simpa using heq.symm
    exact .nil
  | cons m ms ih =>
    have hbehind : ∀ p, p <+: ms →
        (m :: p).count (':', true) ≤ (m :: p).count ('?', true) + nested :=
      fun p hp => hle (m :: p) ((List.prefix_cons_inj m).mpr hp)
    by_cases hq : m = ('?', true)
    · subst hq
      simp only [List.count_cons_self, List.count_cons_of_ne question_ne_colon] at heq hbehind
      refine .question (ih (by omega) fun p hp => ?_)
      have := hbehind p hp
      omega
    · by_cases hc : m = (':', true)
      · subst hc
        simp only [List.count_cons_self, List.count_cons_of_ne question_ne_colon.symm]
          at heq hbehind
        -- a colon is taken by a question mark that waits
        have hwaiting : nested ≠ 0 := by
          have := hbehind [] List.nil_prefix
          simp only [List.count_nil] at this
          omega
        obtain ⟨waiting, rfl⟩ := Nat.exists_eq_succ_of_ne_zero hwaiting
        refine .colon (ih (by omega) fun p hp => ?_)
        have := hbehind p hp
        omega
      · simp only [List.count_cons_of_ne hc, List.count_cons_of_ne hq] at heq hbehind
        exact .other hq hc (ih heq hbehind)

/-- **Where nobody waits any more, the next colon is the first with which the colons lead.** -/
theorem iff_leads :
    Settles 0 ms ↔ ColonsLead (ms ++ [(':', true)]) ∧ ∀ p, p <+: ms → ¬ ColonsLead p := by
  have hnext : ColonsLead (ms ++ [(':', true)])
      ↔ ms.count ('?', true) < ms.count (':', true) + 1 := by
    simp [ColonsLead]
  rw [hnext]
  constructor
  · intro h
    exact ⟨by have := h.count_eq; omega, fun p hp => Nat.not_lt.mpr (h.count_le hp)⟩
  · rintro ⟨hleads, hsooner⟩
    have hle : ∀ p, p <+: ms → p.count (':', true) ≤ p.count ('?', true) :=
      fun p hp => Nat.not_lt.mp (hsooner p hp)
    have := hle ms (List.prefix_refl ms)
    exact of_count (by omega) hle

end Settles

/-! ## 2. The search -/

theorem breakAtColon_of_settles {nested : Nat} {ms : List (Char × Bool)} (h : Settles nested ms)
    (rest : List (Char × Bool)) :
    breakAtColon nested (ms ++ (':', true) :: rest)
      = some (ms.map Prod.fst, rest.map Prod.fst) := by
  induction h with
  | nil => simp [breakAtColon]
  | question _ ih => simp [breakAtColon, ih]
  | colon _ ih => simp [breakAtColon, ih]
  | other hq hc _ ih => simp [breakAtColon, not_mark (Ne.symm hq), not_mark (Ne.symm hc), ih]

theorem breakAtColon_eq_some_iff {nested : Nat} {ms : List (Char × Bool)}
    {before after : List Char} :
    breakAtColon nested ms = some (before, after) ↔
      ∃ passed rest, ms = passed ++ (':', true) :: rest ∧ Settles nested passed ∧
        before = passed.map Prod.fst ∧ after = rest.map Prod.fst := by
  constructor
  · intro h
    induction ms generalizing nested before with
    | nil => simp [breakAtColon] at h
    | cons m ms ih =>
      obtain ⟨d, top⟩ := m
      -- whatever waits behind this character, the search behind it settles that
      have onward : ∀ waiting,
          (breakAtColon waiting ms).map (fun found => (d :: found.1, found.2))
            = some (before, after) →
          (∀ passed, Settles waiting passed → Settles nested ((d, top) :: passed)) →
          ∃ passed rest, (d, top) :: ms = passed ++ (':', true) :: rest ∧
            Settles nested passed ∧ before = passed.map Prod.fst ∧
            after = rest.map Prod.fst := by
        intro waiting hsome hcons
        obtain ⟨⟨b, a⟩, hb, hsome⟩ := Option.map_eq_some_iff.mp hsome
        simp only [Prod.mk.injEq] at hsome
        obtain ⟨rfl, rfl⟩ := hsome
        obtain ⟨passed, rest, rfl, hpassed, rfl, rfl⟩ := ih hb
        exact ⟨(d, top) :: passed, rest, rfl, hcons passed hpassed, rfl, rfl⟩
      simp only [breakAtColon] at h
      split at h
      · next hd =>
        obtain ⟨rfl, rfl⟩ : top = true ∧ d = '?' := by simpa using hd
        exact onward (nested + 1) h fun _ => .question
      · next hq =>
        split at h
        · next hd =>
          obtain ⟨rfl, rfl⟩ : top = true ∧ d = ':' := by simpa using hd
          cases nested with
          | zero =>
            simp only [Option.some.injEq, Prod.mk.injEq] at h
            obtain ⟨rfl, rfl⟩ := h
            exact ⟨[], ms, rfl, .nil, rfl, rfl⟩
          | succ nested => exact onward nested h fun _ => .colon
        · next hc =>
          exact onward nested h fun _ => .other (fun heq => hq (by simp [Prod.mk.inj heq]))
            (fun heq => hc (by simp [Prod.mk.inj heq]))
  · rintro ⟨passed, rest, rfl, hpassed, rfl, rfl⟩
    exact breakAtColon_of_settles hpassed rest

/-! ## 3. The three parts -/

theorem isTernary_iff {ms before middle after : List (Char × Bool)} :
    IsTernary ms before middle after ↔
      ms = before ++ ('?', true) :: (middle ++ (':', true) :: after) ∧
        ('?', true) ∉ before ∧ Settles 0 middle := by
  constructor
  · intro h
    exact ⟨h.text, h.first, Settles.iff_leads.mpr ⟨h.leads, h.not_sooner⟩⟩
  · rintro ⟨htext, hfirst, hmiddle⟩
    obtain ⟨hleads, hsooner⟩ := Settles.iff_leads.mp hmiddle
    exact ⟨htext, hfirst, hleads, hsooner⟩

theorem ternary?_eq_some_iff {cs : List Char} {t : Ternary} :
    ternary? cs = some t ↔
      ∃ before middle after, IsTernary (marks cs) before middle after ∧
        t = ⟨Text.trim (before.map Prod.fst), Text.trim (middle.map Prod.fst),
          Text.trim (after.map Prod.fst)⟩ := by
  simp only [ternary?, Option.bind_eq_bind, Option.bind_eq_some_iff, Option.pure_def,
    Option.some.injEq, isTernary_iff]
  constructor
  · rintro ⟨⟨condition, rest⟩, hquestion, ⟨whenTrue, whenFalse⟩, hcolon, rfl⟩
    obtain ⟨before, hms, hfirst, rfl⟩ := breakAtTop_eq_some_iff.mp hquestion
    obtain ⟨middle, after, rfl, hmiddle, rfl, rfl⟩ := breakAtColon_eq_some_iff.mp hcolon
    exact ⟨before, middle, after, ⟨hms, hfirst, hmiddle⟩, rfl⟩
  · rintro ⟨before, middle, after, ⟨hms, hfirst, hmiddle⟩, rfl⟩
    exact ⟨_, breakAtTop_eq_some_iff.mpr ⟨before, hms, hfirst, rfl⟩, _,
      breakAtColon_of_settles hmiddle after, rfl⟩

/-- Ternaries nest in each other to any depth. -/
theorem nests_ternary {c a b : List Char} (hc : Balance.check c = .ok ())
    (ha : Balance.check a = .ok ()) (hcondition : Nests (marks c)) (htrue : Nests (marks a))
    (hfalse : Nests (marks b)) : Nests (marks (c ++ '?' :: (a ++ ':' :: b))) := by
  rw [marks_ternary hc ha]
  exact hcondition.append (.ternary htrue hfalse)

/-- **The colon of a ternary is found exactly.**  A text is a ternary if and only if a question mark
stands at its top level and, behind the first one, a colon with which the colons lead; the parts are
the trimmed texts around the first of these.  So a ternary of three parts comes apart as it was put
together, whatever ternaries are nested in its second part, and whatever the third part is. -/
theorem ternary?_iff :
    (∀ cs t, ternary? cs = some t ↔
      ∃ before middle after, IsTernary (marks cs) before middle after ∧
        t = ⟨Text.trim (before.map Prod.fst), Text.trim (middle.map Prod.fst),
          Text.trim (after.map Prod.fst)⟩) ∧
    ∀ c a b, Balance.check c = .ok () → '?' ∉ topText c → Balance.check a = .ok () →
      Nests (marks a) →
      ternary? (c ++ '?' :: (a ++ ':' :: b)) = some ⟨Text.trim c, Text.trim a, Text.trim b⟩ := by
  refine ⟨fun cs t => ternary?_eq_some_iff, fun c a b hc hquestion ha hnests => ?_⟩
  rw [mem_topText] at hquestion
  refine ternary?_eq_some_iff.mpr ⟨marks c, marks a, marks b, ?_, by simp⟩
  exact isTernary_iff.mpr ⟨marks_ternary hc ha b, hquestion, .of_nests hnests⟩

/-- A ternary within the second part, with another one in its own, and marks in brackets and in a
string literal. -/
theorem ternary?_of_nested_ternaries :
    let c := "a[?:]".toList
    let a := " p ? q ? '?' : 2 : 3 ".toList
    (Balance.check c = .ok () ∧ '?' ∉ topText c ∧ Balance.check a = .ok () ∧ Nests (marks a)) ∧
      ternary? "a[?:]? p ? q ? '?' : 2 : 3 :r ? s : t".toList
        = some ⟨c, "p ? q ? '?' : 2 : 3".toList, "r ? s : t".toList⟩ := by
  intro c a
  have hflat : ∀ cs : List Char, ('?', true) ∉ marks cs ∧ (':', true) ∉ marks cs →
      Nests (marks cs) := fun cs h => .of_not_mem h.1 h.2
  have hinner : Nests (marks (" q ".toList ++ '?' :: (" '?' ".toList ++ ':' :: " 2 ".toList))) :=
    nests_ternary rfl rfl (hflat _ (by decide)) (hflat _ (by decide)) (hflat _ (by decide))
  have ha :
      Nests (marks (" p ".toList ++ '?' :: (" q ? '?' : 2 ".toList ++ ':' :: " 3 ".toList))) :=
    nests_ternary rfl rfl (hflat _ (by decide)) hinner (hflat _ (by decide))
  have hquestion : '?' ∉ topText c := by decide
  exact ⟨⟨rfl, hquestion, rfl, ha⟩,
    ternary?_iff.2 c a "r ? s : t".toList rfl hquestion rfl ha⟩

end FormLogic.Scan
