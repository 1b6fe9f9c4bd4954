import FormLogic.Json.Number

/-!
# Tokens of JSON text

Brackets, braces, commas, colons, and leaves: words, numbers and strings.  A string with an
escape that denotes half of a surrogate pair is well formed and has no value.
-/

namespace FormLogic.Json

/-- A token of JSON text. -/
inductive Token where
  | openList
  | closeList
  | openEntries
  | closeEntries
  | comma
  | colon
  | leaf (d : Document)
deriving Repr

namespace Token

/-! ## 1. Strings -/

/-- The character of a one-letter escape. -/
def escaped? : Char → Option Char
  | '"' => some '"'
  | '\\' => some '\\'
  | '/' => some '/'
  | 'b' => some '\x08'
  | 'f' => some '\x0c'
  | 'n' => some '\n'
  | 'r' => some '\r'
  | 't' => some '\t'
  | _ => none

/-- The number of four hexadecimal digits. -/
def unit? (a b c d : Char) : Option Nat := do
  return 4096 * (← Text.hexDigit? a) + 256 * (← Text.hexDigit? b) + 16 * (← Text.hexDigit? c)
    + (← Text.hexDigit? d)

/-- One element of a string: a character or a 16-bit unit of an escape. -/
inductive Piece where
  | char (c : Char)
  | unit (n : Nat)
deriving DecidableEq, Repr

/-- One piece in front of what has been scanned. -/
def prepend (p : Piece) (r : Option (List Piece × List Char)) : Option (List Piece × List Char) :=
  r.map fun (pieces, rest) => (p :: pieces, rest)

/-- The pieces of a string up to its closing quote, and what follows that; no value for a
control character, an unknown escape or a string that does not end. -/
def scanPieces? : List Char → Option (List Piece × List Char)
  | '"' :: rest => some ([], rest)
  | '\\' :: 'u' :: a :: b :: c :: d :: rest =>
    match unit? a b c d with
    | some n => prepend (.unit n) (scanPieces? rest)
    | none => none
  | '\\' :: e :: rest =>
    match escaped? e with
    | some c => prepend (.char c) (scanPieces? rest)
    | none => none
  | c :: rest =>
    if c.toNat < 0x20 || c == '\\' then none else prepend (.char c) (scanPieces? rest)
  | [] => none

/-- The characters of the pieces; two units that form a surrogate pair are one character, and a
unit that is half of a pair has no value. -/
def join? : List Piece → Option (List Char)
  | [] => some []
  | .char c :: rest => do return c :: (← join? rest)
  | .unit n :: rest =>
    if n < 0xD800 || 0xDFFF < n then do
      return Char.ofNat n :: (← join? rest)
    else if n ≤ 0xDBFF then
      match rest with
      | .unit m :: rest =>
        if 0xDC00 ≤ m && m ≤ 0xDFFF then do
          return Char.ofNat (0x10000 + (n - 0xD800) * 0x400 + (m - 0xDC00)) :: (← join? rest)
        else none
      | _ => none
    else none

/-- The leaf of a string. -/
def stringLeaf (pieces : List Piece) : Document :=
  match join? pieces with
  | some cs => .string (String.ofList cs)
  | none => .unreadable

theorem of_prepend {p : Piece} {r : Option (List Piece × List Char)} {pieces : List Piece}
    {rest : List Char} (h : prepend p r = some (pieces, rest)) : ∃ ps, r = some (ps, rest) := by
  simp only [prepend, Option.map_eq_some_iff] at h
  obtain ⟨⟨ps, rest'⟩, hr, h⟩ := h
  simp only [Prod.mk.injEq] at h
  exact ⟨ps, by rw [hr, h.2]⟩

theorem length_lt_of_scanPieces? {cs rest : List Char} {pieces : List Piece}
    (h : scanPieces? cs = some (pieces, rest)) : rest.length < cs.length := by
  fun_induction scanPieces? cs generalizing pieces with
  | case1 rest' =>
    obtain ⟨-, rfl⟩ := by simpa using h
    simp
  | case2 a b c d rest' n hn ih =>
    obtain ⟨ps, h⟩ := of_prepend h
    have := ih h
    simp only [List.length_cons]
    omega
  | case3 => simp at h
  | case4 e rest' _ c hc ih =>
    obtain ⟨ps, h⟩ := of_prepend h
    have := ih h
    simp only [List.length_cons]
    omega
  | case5 => simp at h
  | case6 => simp at h
  | case7 c rest' _ _ _ _ ih =>
    obtain ⟨ps, h⟩ := of_prepend h
    have := ih h
    simp only [List.length_cons]
    omega
  | case8 => simp at h

/-! ## 2. Tokens -/

/-- The blank characters of JSON text. -/
def isSpace (c : Char) : Bool := c == ' ' || c == '\t' || c == '\n' || c == '\r'

/-- The words and what they denote. -/
def words : List (List Char × Document) := [
  (['n', 'u', 'l', 'l'], .null),
  (['t', 'r', 'u', 'e'], .bool true),
  (['f', 'a', 'l', 's', 'e'], .bool false)]

/-- The word at the front of a text, and what follows it. -/
def scanWord? (cs : List Char) : Option (Token × List Char) :=
  words.findSome? fun (word, d) => (Text.dropPrefix? word cs).map fun rest => (.leaf d, rest)

/-- The token of a bracket, a brace, a comma or a colon. -/
def ofMark? (c : Char) : Option Token :=
  if c = '[' then some .openList
  else if c = ']' then some .closeList
  else if c = '\x7b' then some .openEntries
  else if c = '\x7d' then some .closeEntries
  else if c = ',' then some .comma
  else if c = ':' then some .colon
  else none

/-- The string or number at the front of a text that begins with `c`, and what follows it. -/
def scanLeaf? (c : Char) (rest : List Char) : Option (Token × List Char) :=
  if c = '"' then
    (scanPieces? rest).map fun (pieces, rest) => (.leaf (stringLeaf pieces), rest)
  else
    (NumberText.scan? (c :: rest)).map fun (n, rest) => (.leaf n.toDocument, rest)

/-- The token at the front of a text that begins with `c`, and what follows it. -/
def scan? (c : Char) (rest : List Char) : Option (Token × List Char) :=
  match ofMark? c with
  | some mark => some (mark, rest)
  | none => scanWord? (c :: rest) <|> scanLeaf? c rest

theorem length_le_of_scanWord? {c : Char} {cs rest : List Char} {t : Token}
    (h : scanWord? (c :: cs) = some (t, rest)) : rest.length ≤ cs.length := by
  obtain ⟨⟨word, d⟩, hw, h⟩ := List.exists_of_findSome?_eq_some h
  simp only [Option.map_eq_some_iff, Prod.mk.injEq] at h
  obtain ⟨r, hr, -, rfl⟩ := h
  have hlen := Text.length_of_dropPrefix? hr
  have : 0 < word.length := by
    simp only [words, List.mem_cons, Prod.mk.injEq, List.not_mem_nil, or_false] at hw
    rcases hw with ⟨rfl, -⟩ | ⟨rfl, -⟩ | ⟨rfl, -⟩ <;> simp
  simp only [List.length_cons] at hlen
  omega

theorem length_le_of_scanLeaf? {c : Char} {cs rest : List Char} {t : Token}
    (h : scanLeaf? c cs = some (t, rest)) : rest.length ≤ cs.length := by
  unfold scanLeaf? at h
  split at h
  · simp only [Option.map_eq_some_iff, Prod.mk.injEq] at h
    obtain ⟨⟨ps, r⟩, hp, -, rfl⟩ := h
    exact Nat.le_of_lt (length_lt_of_scanPieces? hp)
  · simp only [Option.map_eq_some_iff, Prod.mk.injEq] at h
    obtain ⟨⟨n, r⟩, hn, -, rfl⟩ := h
    have := NumberText.length_lt_of_scan? hn
    simp only [List.length_cons] at this ⊢
    omega

theorem length_le_of_scan? {c : Char} {cs rest : List Char} {t : Token}
    (h : scan? c cs = some (t, rest)) : rest.length ≤ cs.length := by
  unfold scan? at h
  split at h
  · obtain ⟨-, rfl⟩ := by simpa using h
    exact Nat.le_refl _
  · cases hw : scanWord? (c :: cs) with
    | some w =>
      rw [hw] at h
      obtain rfl : w = (t, rest) := by simpa using h
      exact length_le_of_scanWord? hw
    | none =>
      rw [hw] at h
      exact length_le_of_scanLeaf? (by simpa using h)

/-- **The tokens of a text**; no value where it is not JSON. -/
def tokens? (cs : List Char) : Option (List Token) :=
  match cs with
  | [] => some []
  | c :: rest =>
    if isSpace c then
      tokens? rest
    else
      match _h : scan? c rest with
      | some (t, rest) => (tokens? rest).map (t :: ·)
      | none => none
termination_by cs.length
decreasing_by
  · simp
  · have := length_le_of_scan? _h
    simp only [List.length_cons]
    omega

end Token

end FormLogic.Json
