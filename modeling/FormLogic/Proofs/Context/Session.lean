import FormLogic.Session

/-!
# What a session does to its context

Both updates act by one rule, entry by entry: an entry that the patch carries replaces the one of
the context, and any other entry stays (`entry_applyExtended`).  A patch of form, process and user
is an extended patch that carries nothing else, and a question is an update that carries nothing at
all, so a session is a sequence of extended patches (`step_fst`).  By induction over the steps each
entry is at the end what the last step that carries it says (`run_lastWritten`).
-/

namespace FormLogic

/-! ## 1. Entries -/

/-- The entries of a context. -/
inductive Context.Entry where
  | form
  | process
  | user
  | grids
  | task
  | value
deriving DecidableEq, Repr

/-- What an entry holds; task and value may be missing. -/
def Context.Entry.Content : Context.Entry → Type
  | form | process => Dict Value
  | user => User
  | grids => Dict Grid
  | task => Option Task
  | value => Option Value

namespace Context

def entry (c : Context) : (e : Entry) → e.Content
  | .form => c.form
  | .process => c.process
  | .user => c.user
  | .grids => c.grids
  | .task => c.task?
  | .value => c.value?

/-- A context is determined by its entries. -/
theorem eq_of_entry_eq {c d : Context} (h : ∀ e, c.entry e = d.entry e) : c = d := by
  obtain ⟨form, process, user, grids, task, value⟩ := c
  obtain rfl : form = d.form := h .form
  obtain rfl : process = d.process := h .process
  obtain rfl : user = d.user := h .user
  obtain rfl : grids = d.grids := h .grids
  obtain rfl : task = d.task? := h .task
  obtain rfl : value = d.value? := h .value
  rfl

end Context

/-- The entry that a patch carries.  A task or a value can be set by a patch, never taken away. -/
def ExtendedPatch.entry? (p : ExtendedPatch) : (e : Context.Entry) → Option e.Content
  | .form => p.form?
  | .process => p.process?
  | .user => p.user?
  | .grids => p.grids?
  | .task => p.task?.map some
  | .value => p.value?.map some

/-- The two patches carry no entry both. -/
def ExtendedPatch.Apart (p q : ExtendedPatch) : Prop := ∀ e, p.entry? e = none ∨ q.entry? e = none

namespace Context

/-- **One rule for every entry**: the patch decides the entries that it carries. -/
theorem entry_applyExtended (c : Context) (p : ExtendedPatch) (e : Entry) :
    (c.applyExtended p).entry e = (p.entry? e).getD (c.entry e) := by
  cases e with
  | form | process | user | grids => rfl
  | task =>
    show (p.task? <|> c.task?) = (p.task?.map some).getD c.task?
    cases p.task? <;> rfl
  | value =>
    show (p.value? <|> c.value?) = (p.value?.map some).getD c.value?
    cases p.value? <;> rfl

/-- A patch that carries nothing changes nothing. -/
theorem applyExtended_of_carries_nothing (c : Context) {p : ExtendedPatch}
    (h : ∀ e, p.entry? e = none) : c.applyExtended p = c := by
  refine eq_of_entry_eq fun e => ?_
  rw [entry_applyExtended, h e]
  rfl

/-- Applied once more, a patch says nothing new. -/
theorem applyExtended_idem (c : Context) (p : ExtendedPatch) :
    (c.applyExtended p).applyExtended p = c.applyExtended p := by
  refine eq_of_entry_eq fun e => ?_
  rw [entry_applyExtended, entry_applyExtended]
  cases p.entry? e <;> rfl

theorem applyExtended_comm (c : Context) {p q : ExtendedPatch} (h : p.Apart q) :
    (c.applyExtended p).applyExtended q = (c.applyExtended q).applyExtended p := by
  refine eq_of_entry_eq fun e => ?_
  simp only [entry_applyExtended]
  rcases h e with hp | hq
  · rw [hp]
    rfl
  · rw [hq]
    rfl

end Context

/-! ## 2. Steps -/

/-- What a step carries: a question carries nothing. -/
def Step.patch : Step → ExtendedPatch
  | .update p => p.extend
  | .updateExtended p => p
  | .query .. | .resolve _ | .root _ | .context | .options => {}

namespace Evaluator

/-- **A step is its patch.** -/
theorem step_fst (ev : Evaluator) (s : Step) : (ev.step s).1 = ev.updateExtended s.patch := by
  cases s <;> rfl

theorem run_cons_fst (ev : Evaluator) (s : Step) (rest : List Step) :
    (ev.run (s :: rest)).1 = ((ev.updateExtended s.patch).run rest).1 := by
  rw [← step_fst]
  rfl

theorem run_options (ev : Evaluator) (steps : List Step) :
    (ev.run steps).1.options = ev.options := by
  induction steps generalizing ev with
  | nil => rfl
  | cons s rest ih => exact (run_cons_fst ev s rest ▸ ih (ev.updateExtended s.patch))

/-! ## 3. The last writer -/

/-- **The last step that carries an entry decides it**; the entry stays what it was initially when
no step carries it. -/
def LastWritten (e : Context.Entry) (steps : List Step) (initial final : e.Content) : Prop :=
  (∃ before s after, steps = before ++ s :: after ∧ s.patch.entry? e = some final ∧
    ∀ t ∈ after, t.patch.entry? e = none) ∨
  (final = initial ∧ ∀ s ∈ steps, s.patch.entry? e = none)

theorem lastWritten_entry (ev : Evaluator) (steps : List Step) (e : Context.Entry) :
    LastWritten e steps (ev.context.entry e) ((ev.run steps).1.context.entry e) := by
  induction steps generalizing ev with
  | nil => exact .inr ⟨rfl, fun _ hs => nomatch hs⟩
  | cons s rest ih =>
    have hentry : (ev.updateExtended s.patch).context.entry e
        = (s.patch.entry? e).getD (ev.context.entry e) := ev.context.entry_applyExtended s.patch e
    rw [run_cons_fst]
    rcases ih (ev.updateExtended s.patch) with ⟨before, t, after, rfl, ht, hafter⟩ | ⟨hsame, hrest⟩
    · exact .inl ⟨s :: before, t, after, rfl, ht, hafter⟩
    · rw [hsame, hentry]
      cases hs : s.patch.entry? e with
      | some x => exact .inl ⟨[], s, rest, rfl, hs, hrest⟩
      | none => exact .inr ⟨rfl, List.forall_mem_cons.mpr ⟨hs, hrest⟩⟩

/-- **The last writer wins**, over any session, and the options stay.  Questions change nothing,
whatever their answers, nor does any other step that carries nothing; patches that carry no entry
both can be taken in either order; a patch taken twice is a patch taken once; the narrow update is
the wide one of the same patch; and an evaluator made of a patch is the default one after it. -/
theorem run_lastWritten (ev : Evaluator) (steps : List Step) :
    (∀ e, LastWritten e steps (ev.context.entry e) ((ev.run steps).1.context.entry e)) ∧
    (ev.run steps).1.options = ev.options ∧
    (∀ q expression, (ev.step (.query q expression)).1 = ev) ∧
    (∀ s : Step, (∀ e, s.patch.entry? e = none) → (ev.step s).1 = ev) ∧
    (∀ p q : ExtendedPatch, p.Apart q →
      (ev.updateExtended p).updateExtended q = (ev.updateExtended q).updateExtended p) ∧
    (∀ p, (ev.updateExtended p).updateExtended p = ev.updateExtended p) ∧
    (∀ p : Patch, ev.update p = ev.updateExtended p.extend) ∧
    (∀ p, ofExtendedPatch p = ({} : Evaluator).updateExtended p) := by
  refine ⟨lastWritten_entry ev steps, run_options ev steps, fun _ _ => rfl, ?_, ?_, ?_,
    fun _ => rfl, fun _ => rfl⟩
  · intro s h
    rw [step_fst, updateExtended, ev.context.applyExtended_of_carries_nothing h]
  · intro p q h
    simp only [updateExtended, ev.context.applyExtended_comm h]
  · intro p
    simp only [updateExtended, ev.context.applyExtended_idem p]

/-- Of two patches with form fields the second one counts, although a task and a failing question
come between them; the task could as well come after both. -/
theorem run_of_two_writers :
    let first : Patch := { form? := some [("a", .bool true)] }
    let second : Patch := { form? := some [("b", .null)], user? := some { id := "u" } }
    let task : ExtendedPatch := { task? := some { id := "t" } }
    let steps : List Step :=
      [.update first, .updateExtended task, .query .result "a ||", .update second]
    LastWritten .form steps [] [("b", .null)] ∧ task.Apart second.extend ∧
      (updateExtended {} task).updateExtended second.extend
        = (updateExtended {} second.extend).updateExtended task := by
  intro first second task steps
  have hapart : task.Apart second.extend := by
    intro e
    cases e with
    | form | process | user | grids | value => exact .inl rfl
    | task => exact .inr rfl
  have hlaws := run_lastWritten {} steps
  exact ⟨hlaws.1 .form, hapart, hlaws.2.2.2.2.1 task second.extend hapart⟩

end Evaluator

end FormLogic
