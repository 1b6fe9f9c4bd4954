import FormLogic.Value

/-!
# Documents

A `Document` is the tree that a JSON or YAML text denotes.  Maps keep all their entries in the
order of the text, repeated keys included, because a repeated field of a record is an error
while a repeated key of a map is not.  A part of a text can be well formed and still have no
value, such as a number beyond the finite range; it is kept as `unreadable`, and only matters
where somebody reads it.

`Value.ofDocument?` and `Value.toDocument` connect documents with the values of the language.
-/

namespace FormLogic

/-- **The tree of a JSON or YAML text.** -/
inductive Document where
  | null
  | bool (b : Bool)
  | integer (i : Int)
  | double (x : Binary64)
  | string (s : String)
  | list (items : List Document)
  | entries (es : List (String × Document))
  | unreadable
deriving Repr, Inhabited

mutual

/-- **Reads a value.**  Of entries with the same key the last one counts. -/
def Value.ofDocument? : Document → Option Value
  | .null => some .null
  | .bool b => some (.bool b)
  | .integer i => some (.number (.ofInt i))
  | .double x => some (.number x)
  | .string s => some (.string s)
  | .list items => do return .list (← Value.listOfDocuments? items)
  | .entries es => do return .map (Dict.ofList (← Value.entriesOfDocuments? es))
  | .unreadable => none

def Value.listOfDocuments? : List Document → Option (List Value)
  | [] => some []
  | d :: ds => do return (← Value.ofDocument? d) :: (← Value.listOfDocuments? ds)

def Value.entriesOfDocuments? : List (String × Document) → Option (List (String × Value))
  | [] => some []
  | (key, d) :: ds => do
    return (key, ← Value.ofDocument? d) :: (← Value.entriesOfDocuments? ds)

end

/-- A number as it is stored; what is not finite has no place in a document. -/
def Binary64.toDocument (x : Binary64) : Document := if x.isFinite then .double x else .null

/-- A number as it is written out: a whole number below `2^53` in size is an integer. -/
def Binary64.toOutput (x : Binary64) : Document :=
  if x.isWhole && x.abs.lt (.ofNat (1 <<< 53)) then .integer x.truncate else x.toDocument

mutual

/-- The document of a value, every number turned into one by `number`. -/
def Value.toDocumentBy (number : Binary64 → Document) : Value → Document
  | .null => .null
  | .bool b => .bool b
  | .number x => number x
  | .string s => .string s
  | .list items => .list (Value.listToDocuments number items)
  | .map es => .entries (Value.entriesToDocuments number es)

def Value.listToDocuments (number : Binary64 → Document) : List Value → List Document
  | [] => []
  | v :: vs => v.toDocumentBy number :: Value.listToDocuments number vs

def Value.entriesToDocuments (number : Binary64 → Document) :
    List (String × Value) → List (String × Document)
  | [] => []
  | (key, v) :: es => (key, v.toDocumentBy number) :: Value.entriesToDocuments number es

end

namespace Value

/-- The document in which a value is stored. -/
def toDocument (v : Value) : Document := v.toDocumentBy Binary64.toDocument

/-- **The document that is written out for a value**: whole numbers without a fraction, `nan`
and the infinities as `null`. -/
def toOutput (v : Value) : Document := v.toDocumentBy Binary64.toOutput

end Value

end FormLogic
