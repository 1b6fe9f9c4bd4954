import FormLogic.Expression.GridCall
import FormLogic.Proofs.Expression.Contiguous
import FormLogic.Proofs.Expression.Forms
import FormLogic.Proofs.Expression.Literal
import FormLogic.Proofs.Scan.Grammar

/-!
# Grid expressions as they are written

A grid expression names a grid and asks for its rows, or for an aggregate of a column between
quotes.  `Spells` is the grammar of these texts, with the two quotes as parameters, and the reader
takes exactly them (`ofText?_eq_some_iff`).  The two quotes need not be the same.  A text in which
they are is balanced; one in which they differ is read all the same, although the check of brackets
and quotes, which it is never put to, calls its string unterminated (`evaluate?_eq_some_iff`).
-/

namespace FormLogic

open Scan Text

/-! ## 1. Names -/

namespace Aggregate

/-- The name as grid expressions write it. -/
def name : Aggregate → String
  | sum => "sum"
  | avg => "avg"
  | min => "min"
  | max => "max"

theorem ofName?_eq_some_iff {n : String} {a : Aggregate} : ofName? n = some a ↔ n = a.name := by
  constructor
  · intro h
    unfold ofName? at h
    split at h
    all_goals first
      | exact Option.some.inj h ▸ rfl
      | cases h
  · rintro rfl
    cases a <;> rfl

theorem isIdentifier_name (a : Aggregate) : isIdentifier a.name.toList = true := by
  cases a <;> rfl

end Aggregate

namespace GridCall

/-- What is read as an identifier is the longest one at the front. -/
theorem identifier?_eq_some_iff {cs name rest : List Char} :
    identifier? cs = some (name, rest) ↔
      cs = name ++ rest ∧ isIdentifier name = true ∧
        ∀ c ∈ rest.head?, isIdentifierPart c = false := by
  simp only [identifier?]
  constructor
  · intro h
    split at h
    · next hname =>
      obtain ⟨rfl, rfl⟩ := Prod.mk.inj (Option.some.inj h)
      refine ⟨List.takeWhile_append_dropWhile.symm, hname, fun c hc => ?_⟩
      have hstop := List.head?_dropWhile_not isIdentifierPart cs
      rw [Option.mem_def.mp hc] at hstop
      simpa using hstop
    · cases h
  · rintro ⟨rfl, hname, hrest⟩
    have hparts := Path.isIdentifierPart_of_isIdentifier hname
    have hstop : rest.takeWhile isIdentifierPart = [] ∧ rest.dropWhile isIdentifierPart = rest := by
      cases rest with
      | nil => exact ⟨rfl, rfl⟩
      | cons c rest => simp [hrest c rfl]
    rw [List.takeWhile_append_of_pos hparts, List.dropWhile_append_of_pos hparts, hstop.1, hstop.2,
      List.append_nil, if_pos hname]

/-- A column is an identifier between quotes, in parentheses. -/
theorem column?_eq_some_iff {cs column : List Char} :
    column? cs = some column ↔
      ∃ opening closing, isQuote opening = true ∧ isQuote closing = true ∧
        isIdentifier column = true ∧ cs = '(' :: opening :: (column ++ [closing, ')']) := by
  constructor
  · intro h
    unfold column? at h
    split at h
    · next opening rest =>
      split at h
      · next hopening =>
        split at h
        · next name closing hname =>
          split at h
          · next hclosing =>
            obtain rfl := Option.some.inj h
            obtain ⟨rfl, hidentifier, -⟩ := identifier?_eq_some_iff.mp hname
            exact ⟨opening, closing, hopening, hclosing, hidentifier, rfl⟩
          · cases h
        · cases h
      · cases h
    · cases h
  · rintro ⟨opening, closing, hopening, hclosing, hcolumn, rfl⟩
    have hstop : ∀ c ∈ [closing, ')'].head?, isIdentifierPart c = false := by
      intro c hc
      obtain rfl : closing = c := by simpa using hc
      rcases eq_of_isQuote hclosing with rfl | rfl <;> decide
    have hidentifier := identifier?_eq_some_iff.mpr ⟨rfl, hcolumn, hstop⟩
    rw [isQuote] at hopening hclosing
    simp only [column?, hopening, hclosing, hidentifier, if_true]

/-! ## 2. The grammar -/

/-- `grids`, a point, the name of a grid and a point. -/
def gridText (grid : List Char) : List Char :=
  ['g', 'r', 'i', 'd', 's', '.'] ++ (grid ++ ['.'])

/-- **A grid expression as it is written**, with the quotes before and behind its column. -/
inductive Spells (opening closing : Char) : GridCall → List Char → Prop
  | rows {grid : List Char} : isIdentifier grid = true →
      Spells opening closing (.count grid)
        (gridText grid ++ ['r', 'o', 'w', 's', '.', 'l', 'e', 'n', 'g', 't', 'h'])
  | count {grid : List Char} : isIdentifier grid = true →
      Spells opening closing (.count grid) (gridText grid ++ ['c', 'o', 'u', 'n', 't', '(', ')'])
  | aggregate {grid column : List Char} (a : Aggregate) : isIdentifier grid = true →
      isIdentifier column = true →
      Spells opening closing (.aggregate grid a column)
        (gridText grid ++ (a.name.toList ++ ('(' :: opening :: (column ++ [closing, ')']))))

/-- Behind a text that is put down the reader asks for nothing but the rest. -/
theorem ofText?_gridText {cs grid rest : List Char} (hgrid : isIdentifier grid = true)
    (hcs : trim cs = gridText grid ++ rest) :
    ofText? cs =
      if rest = ['c', 'o', 'u', 'n', 't', '(', ')'] then some (count grid)
      else if rest = ['r', 'o', 'w', 's', '.', 'l', 'e', 'n', 'g', 't', 'h'] then some (count grid)
      else do
        let (name, rest) ← identifier? rest
        let a ← Aggregate.ofName? (String.ofList name)
        let column ← column? rest
        return aggregate grid a column := by
  have hgrids : dropPrefix? ['g', 'r', 'i', 'd', 's', '.'] (trim cs)
      = some (grid ++ ('.' :: rest)) :=
    dropPrefix?_eq_some_iff.mpr (by simp [hcs, gridText])
  have hname : identifier? (grid ++ ('.' :: rest)) = some (grid, '.' :: rest) := by
    refine identifier?_eq_some_iff.mpr ⟨rfl, hgrid, fun c hc => ?_⟩
    obtain rfl : '.' = c := by simpa using hc
    decide
  have hpoint : dropPrefix? ['.'] ('.' :: rest) = some rest := by simp [dropPrefix?]
  simp only [ofText?, hgrids, hname, hpoint, Option.bind_eq_bind, Option.bind_some,
    Option.pure_def]

theorem exists_gridText {cs : List Char} {call : GridCall} (h : ofText? cs = some call) :
    ∃ grid rest, isIdentifier grid = true ∧ trim cs = gridText grid ++ rest := by
  simp only [ofText?, Option.bind_eq_bind, Option.bind_eq_some_iff] at h
  obtain ⟨named, hgrids, ⟨grid, pointed⟩, hname, rest, hpoint, -⟩ := h
  rw [dropPrefix?_eq_some_iff] at hgrids hpoint
  obtain rfl : pointed = '.' :: rest := hpoint
  obtain ⟨rfl, hgrid, -⟩ := identifier?_eq_some_iff.mp hname
  exact ⟨grid, rest, hgrid, by simp [hgrids, gridText]⟩

/-- **What is read as a grid expression is what is written as one.** -/
theorem ofText?_eq_some_iff {cs : List Char} {call : GridCall} :
    ofText? cs = some call ↔
      ∃ opening closing, isQuote opening = true ∧ isQuote closing = true ∧
        Spells opening closing call (trim cs) := by
  constructor
  · intro h
    obtain ⟨grid, rest, hgrid, hcs⟩ := exists_gridText h
    rw [ofText?_gridText hgrid hcs] at h
    rw [hcs]
    split at h
    · next hrest =>
      obtain rfl := Option.some.inj h
      exact ⟨'"', '"', rfl, rfl, hrest ▸ .count hgrid⟩
    split at h
    · next hrest =>
      obtain rfl := Option.some.inj h
      exact ⟨'"', '"', rfl, rfl, hrest ▸ .rows hgrid⟩
    simp only [Option.bind_eq_bind, Option.bind_eq_some_iff, Option.pure_def,
      Option.some.injEq] at h
    obtain ⟨⟨name, rest⟩, hname, a, ha, column, hcolumn, rfl⟩ := h
    obtain ⟨rfl, -, -⟩ := identifier?_eq_some_iff.mp hname
    obtain ⟨opening, closing, hopening, hclosing, hidentifier, rfl⟩ :=
      column?_eq_some_iff.mp hcolumn
    have hname : name = a.name.toList := by
      rw [← Aggregate.ofName?_eq_some_iff.mp ha, String.toList_ofList]
    exact ⟨opening, closing, hopening, hclosing, hname ▸ .aggregate a hgrid hidentifier⟩
  · rintro ⟨opening, closing, hopening, hclosing, h⟩
    generalize ht : trim cs = t at h
    cases h with
    | rows hgrid =>
      rw [ofText?_gridText hgrid ht]
      rfl
    | count hgrid =>
      rw [ofText?_gridText hgrid ht]
      rfl
    | @aggregate grid column a hgrid hidentifier =>
      have hcolumn := column?_eq_some_iff.mpr
        ⟨opening, closing, hopening, hclosing, hidentifier, rfl⟩
      have hname : identifier? (a.name.toList ++ ('(' :: opening :: (column ++ [closing, ')'])))
          = some (a.name.toList, '(' :: opening :: (column ++ [closing, ')'])) := by
        refine identifier?_eq_some_iff.mpr ⟨rfl, a.isIdentifier_name, fun c hc => ?_⟩
        obtain rfl : '(' = c := by simpa using hc
        decide
      rw [ofText?_gridText hgrid ht, if_neg (by cases a <;> simp [Aggregate.name]),
        if_neg (by cases a <;> simp [Aggregate.name]), hname]
      simp [Aggregate.ofName?_eq_some_iff.mpr rfl, hcolumn]

/-! ## 3. Balance -/

theorem plain_gridText {grid : List Char} (h : isIdentifier grid = true) :
    Plain (gridText grid) := by
  have hgrids : Plain ['g', 'r', 'i', 'd', 's', '.'] := by decide
  have hpoint : Plain ['.'] := by decide
  exact List.forall_mem_append.mpr ⟨hgrids, List.forall_mem_append.mpr
    ⟨(Path.isWord_of_isIdentifier h).plain, hpoint⟩⟩

theorem isQuotable_column {column : List Char} (h : isIdentifier column = true) {quote : Char}
    (hquote : isQuote quote = true) : IsQuotable quote column := by
  have hword := Path.isWord_of_isIdentifier h
  intro c hc
  constructor
  · rintro rfl
    rcases eq_of_isQuote hquote with rfl | rfl <;> exact hword.not_mem (by decide) hc
  · rintro rfl
    exact hword.not_mem (by decide) hc

/-- **With the same quote on both sides the text is balanced.** -/
theorem Spells.closed {quote : Char} {call : GridCall} {t : List Char}
    (hquote : isQuote quote = true) (h : Spells quote quote call t) : Closed t := by
  cases h with
  | rows hgrid =>
    exact (Closed.of_plain (plain_gridText hgrid)).append (Closed.of_plain (by decide))
  | count hgrid =>
    have hcount : Closed (['c', 'o', 'u', 'n', 't'] ++ ('(' :: ([] ++ [')']))) :=
      (Closed.of_plain (by decide)).append (Closed.enclosed .round rfl)
    exact (Closed.of_plain (plain_gridText hgrid)).append hcount
  | aggregate a hgrid hcolumn =>
    have hname : Plain a.name.toList := (Path.isWord_of_isIdentifier a.isIdentifier_name).plain
    have hquoted := Closed.quoted hquote (isQuotable_column hcolumn hquote)
    refine (Closed.of_plain (plain_gridText hgrid)).append ((Closed.of_plain hname).append ?_)
    simpa using Closed.enclosed .round hquoted.balanced

/-- A literal behind a parenthesis is left open by text without its quote. -/
theorem check_eq_unterminated {front content : List Char} {quote : Char} (hfront : Plain front)
    (hquote : isQuote quote = true) (hcontent : quote ∉ content) :
    Balance.check (front ++ ('(' :: quote :: content)) = .error (.unterminated quote) := by
  have hparen : LeavesOpen ⟨['('], none⟩ (front ++ ('(' :: [])) :=
    .bracket (.nothing (balanced_iff.mpr (Closed.of_plain hfront).balanced)) .round (.empty false)
  have hliteral :
      LeavesOpen ⟨['('], some quote⟩ ((front ++ ('(' :: [])) ++ (quote :: content)) := by
    refine .literal hparen (by simp [escapedAfter]) hquote fun a b h => ?_
    exact absurd (h ▸ by simp) hcontent
  rw [check_eq_error_iff]
  exact ⟨['('], by simpa using hliteral⟩

/-- **With two different quotes the string is not terminated**: a text that is spelled in no other
way leaves it open. -/
theorem Spells.check_eq {opening closing : Char} {call : GridCall} {t : List Char}
    (h : Spells opening closing call t) (hopening : isQuote opening = true)
    (hother : ¬ Spells opening opening call t) {before after : List Char} (hb : Blank before)
    (ha : Blank after) :
    Balance.check (before ++ (t ++ after)) = .error (.unterminated opening) := by
  cases h with
  | rows hgrid => exact absurd (.rows hgrid) hother
  | count hgrid => exact absurd (.count hgrid) hother
  | @aggregate grid column a hgrid hcolumn =>
    have hne : opening ≠ closing := by
      rintro rfl
      exact hother (.aggregate a hgrid hcolumn)
    have hfront : Plain (before ++ (gridText grid ++ a.name.toList)) :=
      List.forall_mem_append.mpr ⟨Shape.plain_of_blank hb, List.forall_mem_append.mpr
        ⟨plain_gridText hgrid, (Path.isWord_of_isIdentifier a.isIdentifier_name).plain⟩⟩
    have hvisible : Visible [opening] ∧ opening ≠ ')' := by
      rcases eq_of_isQuote hopening with rfl | rfl <;> decide
    have hcontent : opening ∉ column ++ ([closing, ')'] ++ after) := by
      have hcolumn' : opening ∉ column := fun hm => (isQuotable_column hcolumn hopening _ hm).1 rfl
      have hafter : opening ∉ after := hvisible.1.not_mem ha List.mem_cons_self
      simp [hcolumn', hafter, hne, hvisible.2]
    rw [← check_eq_unterminated hfront hopening hcontent]
    simp

/-! ## 4. Accepted texts -/

/-- **What is accepted as a grid expression.**  A text has a value as a grid expression just when
it is spelled as one, blank characters around it not counting, and the value is the answer of the
grids to it.  Where it is spelled with the same quote on both sides of the column, or without a
column, it is balanced; where it is not, its literal is left open. -/
theorem evaluate?_spelled (cs : List Char) (grids : Dict Grid) :
    (∀ value, evaluate? cs grids = some value ↔
      ∃ call opening closing, isQuote opening = true ∧ isQuote closing = true ∧
        Spells opening closing call (trim cs) ∧ call.answer grids = value) ∧
    (∀ call quote, isQuote quote = true → Spells quote quote call (trim cs) →
      Balance.check cs = .ok ()) ∧
    (∀ call opening closing, isQuote opening = true → Spells opening closing call (trim cs) →
      ¬ Spells opening opening call (trim cs) →
      Balance.check cs = .error (.unterminated opening)) := by
  obtain ⟨before, after, hb, ha, hcs⟩ := exists_trim cs
  refine ⟨?_, ?_, ?_⟩
  · intro value
    simp only [evaluate?, Option.map_eq_some_iff, ofText?_eq_some_iff]
    constructor
    · rintro ⟨call, ⟨opening, closing, hopening, hclosing, h⟩, hvalue⟩
      exact ⟨call, opening, closing, hopening, hclosing, h, hvalue⟩
    · rintro ⟨call, opening, closing, hopening, hclosing, h, hvalue⟩
      exact ⟨call, ⟨opening, closing, hopening, hclosing, h⟩, hvalue⟩
  · intro call quote hquote h
    rw [hcs]
    exact Shape.balanced_pad hb (h.closed hquote).balanced ha
  · intro call opening closing hopening h hother
    rw [hcs]
    exact h.check_eq hopening hother hb ha

/-- The greatest number of a column, with blank characters around the text, and the rows of a grid
that there is not. -/
theorem evaluate?_spelled_of_column :
    let cs := " grids._g1.max(\"x\")\n".toList
    let grids : Dict Grid := [("_g1", { rows := [[("x", .number .one)], []] })]
    (isQuote '"' = true ∧
      Spells '"' '"' (.aggregate "_g1".toList .max "x".toList) (trim cs) ∧
      evaluate? cs grids = some .one ∧ Balance.check cs = .ok ()) ∧
    evaluate? "grids.none.rows.length".toList grids = some .zero := by
  intro cs grids
  have hspells : Spells '"' '"' (.aggregate "_g1".toList .max "x".toList) (trim cs) :=
    .aggregate .max rfl rfl
  have hrows : Spells '"' '"' (.count "none".toList) (trim "grids.none.rows.length".toList) :=
    .rows rfl
  have hgreatest : (aggregate "_g1".toList .max "x".toList).answer grids = .one := by
    decide +kernel
  obtain ⟨hvalue, hbalanced, -⟩ := evaluate?_spelled cs grids
  exact ⟨⟨rfl, hspells, (hvalue .one).mpr ⟨_, '"', '"', rfl, rfl, hspells, hgreatest⟩,
    hbalanced _ '"' rfl hspells⟩,
    ((evaluate?_spelled _ grids).1 .zero).mpr ⟨_, '"', '"', rfl, rfl, hrows, rfl⟩⟩

/-- `grids.g.sum('x")` is accepted, and no spelling with one quote has it. -/
theorem not_evaluate?_spelled_of_two_quotes :
    ¬ ∀ (cs : List Char) (grids : Dict Grid) (value : Binary64),
        (evaluate? cs grids = some value ↔
          ∃ call quote, isQuote quote = true ∧ Spells quote quote call (trim cs) ∧
            call.answer grids = value) ∧
        (Balance.check cs ≠ .ok () → evaluate? cs grids = none) := by
  intro h
  let cs : List Char := "grids.g.sum('x\")".toList
  have hvalue : evaluate? cs [] = some .zero := by decide
  have hfault : Balance.check cs = .error (.unterminated '\'') := rfl
  have hrefused : Balance.check cs ≠ .ok () := by simp [hfault]
  rw [(h cs [] .zero).2 hrefused] at hvalue
  cases hvalue

end GridCall

end FormLogic
