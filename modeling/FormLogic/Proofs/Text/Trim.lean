import FormLogic.Text.Blank

/-!
# Trimmed text

What trimming does to a text, and the length of a text in bytes.
-/

namespace FormLogic.Text

/-! ## 1. Length in bytes -/

theorem utf8ByteSize_cons (c : Char) (cs : List Char) :
    (String.ofList (c :: cs)).utf8ByteSize = c.utf8Size + (String.ofList cs).utf8ByteSize := by
  have h : String.ofList (c :: cs) = String.singleton c ++ String.ofList cs := by simp
  rw [h, String.utf8ByteSize_append, String.utf8ByteSize_singleton]

/-- A text has at least as many bytes as characters. -/
theorem length_le_utf8ByteSize (cs : List Char) : cs.length ≤ (String.ofList cs).utf8ByteSize := by
  induction cs with
  | nil => simp
  | cons c cs ih =>
    have hc := c.utf8Size_pos
    rw [utf8ByteSize_cons, List.length_cons]
    omega

/-! ## 2. Blank text around text -/

/-- Nothing but blank characters. -/
def Blank (cs : List Char) : Prop := ∀ c ∈ cs, isBlank c = true

instance (cs : List Char) : Decidable (Blank cs) := List.decidableBAll _ cs

theorem Blank.nil : Blank [] := fun _ h => nomatch h

theorem Blank.append {a b : List Char} (ha : Blank a) (hb : Blank b) : Blank (a ++ b) :=
  fun c hc => (List.mem_append.mp hc).elim (ha c) (hb c)

/-- No blank character at all. -/
def Visible (cs : List Char) : Prop := ∀ c ∈ cs, isBlank c = false

instance (cs : List Char) : Decidable (Visible cs) := List.decidableBAll _ cs

/-- Blank text has no visible character. -/
theorem Visible.not_mem {chars cs : List Char} (hchars : Visible chars) (h : Blank cs) {c : Char}
    (hc : c ∈ chars) : c ∉ cs := by
  intro hmem
  have hblank := h c hmem
  rw [hchars c hc] at hblank
  exact Bool.false_ne_true hblank

theorem trim_of_blank {cs : List Char} (h : Blank cs) : trim cs = [] := by
  have hstart : trimStart (cs ++ []) = [] := List.dropWhile_append_of_pos h
  rw [List.append_nil] at hstart
  rw [trim, hstart]
  rfl

/-- **Text that trimming leaves alone**: it has a first and a last character, neither blank. -/
structure Tight (cs : List Char) : Prop where
  first : ∃ c rest, cs = c :: rest ∧ isBlank c = false
  last : ∃ start c, cs = start ++ [c] ∧ isBlank c = false

namespace Tight

variable {cs : List Char}

theorem ne_nil (h : Tight cs) : cs ≠ [] := by
  obtain ⟨c, rest, rfl, -⟩ := h.first
  exact List.cons_ne_nil c rest

/-- Tight ends make tight text, whatever stands between them. -/
theorem append {a b : List Char} (ha : Tight a) (hb : Tight b) (middle : List Char) :
    Tight (a ++ (middle ++ b)) := by
  obtain ⟨c, rest, rfl, hc⟩ := ha.first
  obtain ⟨start, d, rfl, hd⟩ := hb.last
  exact ⟨⟨c, rest ++ (middle ++ (start ++ [d])), rfl, hc⟩,
    ⟨c :: rest ++ (middle ++ start), d, by simp, hd⟩⟩

theorem of_ends {c d : Char} (hc : isBlank c = false) (hd : isBlank d = false)
    (middle : List Char) : Tight (c :: (middle ++ [d])) :=
  ⟨⟨c, middle ++ [d], rfl, hc⟩, ⟨c :: middle, d, rfl, hd⟩⟩

/-- **Trimming takes off the blank characters around tight text**, and nothing else. -/
theorem trim_pad (h : Tight cs) {before after : List Char} (hb : Blank before)
    (ha : Blank after) : trim (before ++ (cs ++ after)) = cs := by
  have hstart : trimStart (before ++ (cs ++ after)) = cs ++ after := by
    obtain ⟨c, rest, rfl, hc⟩ := h.first
    rw [trimStart, List.dropWhile_append_of_pos hb]
    simp [hc]
  obtain ⟨start, d, rfl, hd⟩ := h.last
  rw [trim, hstart, trimEnd, List.reverse_append, List.dropWhile_append_of_pos
    fun c hc => ha c (List.mem_reverse.mp hc)]
  simp [hd]

theorem trim_eq (h : Tight cs) : trim cs = cs := by
  simpa using h.trim_pad Blank.nil Blank.nil

theorem not_blank (h : Tight cs) : ¬ Blank cs := by
  intro hblank
  exact h.ne_nil (by rw [← h.trim_eq, trim_of_blank hblank])

end Tight

/-! ## 3. Trimming any text -/

theorem blank_takeWhile (cs : List Char) : Blank (cs.takeWhile isBlank) :=
  List.all_eq_true.mp List.all_takeWhile

/-- The first character that is left is not blank. -/
theorem isBlank_of_mem_head?_dropWhile {cs : List Char} {c : Char}
    (h : c ∈ (cs.dropWhile isBlank).head?) : isBlank c = false := by
  have hnot := List.head?_dropWhile_not isBlank cs
  rwa [Option.mem_def.mp h] at hnot

theorem exists_trimStart (cs : List Char) :
    ∃ before, Blank before ∧ cs = before ++ trimStart cs :=
  ⟨cs.takeWhile isBlank, blank_takeWhile cs, by rw [trimStart, List.takeWhile_append_dropWhile]⟩

theorem exists_trimEnd (cs : List Char) : ∃ after, Blank after ∧ cs = trimEnd cs ++ after := by
  refine ⟨(cs.reverse.takeWhile isBlank).reverse, ?_, ?_⟩
  · intro c hc
    exact blank_takeWhile _ c (List.mem_reverse.mp hc)
  · rw [trimEnd, ← List.reverse_append, List.takeWhile_append_dropWhile, List.reverse_reverse]

/-- **Trimming takes blank characters off the ends**, and nothing else. -/
theorem exists_trim (cs : List Char) :
    ∃ before after, Blank before ∧ Blank after ∧ cs = before ++ (trim cs ++ after) := by
  obtain ⟨before, hb, hstart⟩ := exists_trimStart cs
  obtain ⟨after, ha, hend⟩ := exists_trimEnd (trimStart cs)
  exact ⟨before, after, hb, ha, by rw [trim, ← hend, ← hstart]⟩

/-- The last character that is left is not blank. -/
theorem isBlank_of_mem_getLast?_trimEnd {cs : List Char} {c : Char}
    (h : c ∈ (trimEnd cs).getLast?) : isBlank c = false := by
  rw [trimEnd, List.getLast?_reverse] at h
  exact isBlank_of_mem_head?_dropWhile h

/-- What trimming leaves is empty or tight. -/
theorem tight_trim {cs : List Char} (h : trim cs ≠ []) : Tight (trim cs) := by
  have hlast : ∀ c ∈ (trim cs).getLast?, isBlank c = false := fun c hc =>
    isBlank_of_mem_getLast?_trimEnd hc
  have hfirst : ∀ c ∈ (trim cs).head?, isBlank c = false := by
    intro c hc
    -- the text that is left begins what the first half of trimming leaves
    have hprefix : trim cs <+: trimStart cs := by
      rw [trim, trimEnd, ← List.reverse_suffix, List.reverse_reverse]
      exact List.dropWhile_suffix isBlank
    obtain ⟨tail, htail⟩ := hprefix
    refine @isBlank_of_mem_head?_dropWhile cs c ?_
    rw [← trimStart, ← htail, List.head?_append, Option.mem_def.mp hc]
    rfl
  constructor
  · obtain ⟨c, rest, hcs⟩ := List.exists_cons_of_ne_nil h
    exact ⟨c, rest, hcs, hfirst c (by simp [hcs])⟩
  · have hconcat := List.dropLast_concat_getLast h
    exact ⟨_, _, hconcat.symm, hlast _ (List.getLast_mem_getLast? h)⟩

theorem trim_eq_nil_iff {cs : List Char} : trim cs = [] ↔ Blank cs := by
  constructor
  · intro h
    obtain ⟨before, after, hb, ha, hcs⟩ := exists_trim cs
    rw [hcs, h]
    exact hb.append ha
  · exact trim_of_blank

@[simp] theorem trim_trim (cs : List Char) : trim (trim cs) = trim cs := by
  by_cases h : trim cs = []
  · rw [h]
    rfl
  · exact (tight_trim h).trim_eq

/-- Blank characters around any text do not count. -/
theorem trim_pad {before after : List Char} (hb : Blank before) (cs : List Char)
    (ha : Blank after) : trim (before ++ (cs ++ after)) = trim cs := by
  obtain ⟨front, back, hfront, hback, hcs⟩ := exists_trim cs
  by_cases h : trim cs = []
  · rw [h, trim_eq_nil_iff]
    exact hb.append ((trim_eq_nil_iff.mp h).append ha)
  · have hpad := (tight_trim h).trim_pad (hb.append hfront) (hback.append ha)
    rw [← hpad]
    conv => lhs; rw [hcs]
    simp

/-- Texts that blank characters can be put around to make one text are trimmed to one text. -/
theorem trim_eq_of_pad_eq {cs ds before after before' after' : List Char} (hb : Blank before)
    (ha : Blank after) (hb' : Blank before') (ha' : Blank after')
    (h : before ++ (cs ++ after) = before' ++ (ds ++ after')) : trim cs = trim ds := by
  rw [← trim_pad hb cs ha, h, trim_pad hb' ds ha']

/-- **Trimming around tight text** takes blank characters off the far ends of what stands before
and after it, and leaves the text itself alone. -/
theorem exists_tight_append {middle : List Char} (h : Tight middle) (cs ds : List Char) :
    ∃ before cs' ds' after, Blank before ∧ Blank after ∧ cs = before ++ cs' ∧ ds = ds' ++ after ∧
      Tight (cs' ++ (middle ++ ds')) := by
  obtain ⟨before, hb, hcs⟩ := exists_trimStart cs
  obtain ⟨after, ha, hds⟩ := exists_trimEnd ds
  refine ⟨before, trimStart cs, trimEnd ds, after, hb, ha, hcs, hds, ?_, ?_⟩
  · cases hfirst : trimStart cs with
    | nil =>
      obtain ⟨c, rest, rfl, hc⟩ := h.first
      exact ⟨c, rest ++ trimEnd ds, rfl, hc⟩
    | cons c rest =>
      have hc : isBlank c = false :=
        @isBlank_of_mem_head?_dropWhile cs c (by rw [← trimStart, hfirst]; rfl)
      exact ⟨c, rest ++ (middle ++ trimEnd ds), rfl, hc⟩
  · rcases List.eq_nil_or_concat (trimEnd ds) with hlast | ⟨start, d, hlast⟩
    · obtain ⟨start, d, rfl, hd⟩ := h.last
      exact ⟨trimStart cs ++ start, d, by simp [hlast], hd⟩
    · have hd : isBlank d = false :=
        @isBlank_of_mem_getLast?_trimEnd ds d (by rw [hlast]; simp)
      exact ⟨trimStart cs ++ (middle ++ start), d, by simp [hlast], hd⟩

end FormLogic.Text
