/-
# SchemaDiagram.Data.Scalar -- values without parts

Numbers and truth values are equal if they count the same: one, `1.0` and true
are one key of an object.  `keyForm` is what a key is known by.
-/
import SchemaDiagram.Data.Binary64
import SchemaDiagram.Data.Stamp

namespace SchemaDiagram

set_option autoImplicit false

inductive Scalar where
  | null
  | bool (b : Bool)
  | int (n : Int)
  | real (x : Binary64)
  | text (s : String)
  | bytes (content : List UInt8)
  | stamp (s : Stamp)
deriving DecidableEq, Repr, Inhabited

/-- A text is its own scalar. -/
instance instCoeTextScalar : Coe String Scalar := ⟨.text⟩

namespace Scalar

/-- A scalar as a key is known by it: truth values and whole numbers with a
point become integers. -/
def keyForm : Scalar → Scalar
  | bool b => .int (if b then 1 else 0)
  | real x =>
      match x.toInt? with
      | some n => .int n
      | none => .real x
  | s => s

/-- Whether two scalars are one key. -/
def isSameKey (a b : Scalar) : Bool :=
  a.keyForm == b.keyForm

theorem isSameKey_text_iff {key : Scalar} {s : String} :
    key.isSameKey (.text s) = true ↔ key = .text s := by
  cases key with
  | bool b => simp [isSameKey, keyForm]
  | real x => cases whole : x.toInt? <;> simp [isSameKey, keyForm, whole]
  | _ => simp [isSameKey, keyForm]

/-- The name of the kind of a scalar, as failures call it. -/
def kind : Scalar → String
  | null => "NoneType"
  | bool _ => "bool"
  | int _ => "int"
  | real _ => "float"
  | text _ => "str"
  | bytes _ => "bytes"
  | stamp (.day _) => "datetime.date"
  | stamp (.moment _) => "datetime.datetime"

/-- Whether a scalar counts as nothing: null, false, zero, and no characters. -/
def isNothing : Scalar → Bool
  | null => true
  | bool b => !b
  | int n => n == 0
  | real x => x.toInt? == some 0
  | text s => s.isEmpty
  | bytes content => content.isEmpty
  | stamp _ => false

end Scalar

end SchemaDiagram
