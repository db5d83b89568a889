/-
# SchemaDiagram.Schema.Draft -- a field whose parts are yet to be looked at

Whoever asks for a field gives a name, a type and attributes, as values of any
kind.  The attributes are the items of whatever has some, and what counts as
nothing has none.

Whether the field refers to a model is settled first.  An attribute that mentions
`@relation` settles it, and those behind it are not looked at; otherwise the type
does.  Only then must name and attributes be texts.  A draft of texts makes the
field that is derived from them (`field_ofTexts`).
-/
import SchemaDiagram.Data.Checked
import SchemaDiagram.Schema.Field

namespace SchemaDiagram

set_option autoImplicit false

structure Draft where
  name : Value
  type : Value
  modifiers : Value
deriving Inhabited

inductive DraftFault where
  /-- Attributes that are nothing with items, by their kind. -/
  | noItems (kind : String)
  /-- An attribute in which nothing can be looked for. -/
  | noParts (kind : String)
  /-- A type that is no text. -/
  | noType (kind : String)
  | invalid (problems : List Problem)
deriving DecidableEq, Repr, Inhabited

def DraftFault.message : DraftFault → String
  | noItems kind => "'" ++ kind ++ "' object is not iterable"
  | noParts kind =>
      -- Bytes have parts, but no text is looked for in them.
      if kind = "bytes" then "a bytes-like object is required, not 'str'"
      else "argument of type '" ++ kind ++ "' is not iterable"
  | noType kind => "'" ++ kind ++ "' object has no attribute 'replace'"
  | invalid _ => ""

namespace Draft

def mark : String := "@relation"

/-- Whether an attribute mentions the annotation: in its text, among its items or
among its keys. -/
def mentions (v : Value) : Except DraftFault Bool :=
  match v.untied with
  | .text s => .ok (Text.contains mark s)
  | .bytes _ => .error (.noParts v.kind)
  | v =>
      match v.items? with
      | some items => .ok (items.any fun
          | .text s => s == mark
          | _ => false)
      | none => .error (.noParts v.kind)

/-- Whether an attribute mentions the annotation, up to the first that does. -/
def anyMentions : List Value → Except DraftFault Bool
  | [] => .ok false
  | v :: rest => do if ← mentions v then return true else anyMentions rest

def items (modifiers : Value) : Except DraftFault (List Value) :=
  if modifiers.isNothing then .ok []
  else
    match modifiers.items? with
    | some items => .ok items
    | none => .error (.noItems modifiers.kind)

open Checked in
/-- The field that is drafted. -/
def field (d : Draft) : Except DraftFault Field := do
  let modifiers ← items d.modifiers
  let marked ← anyMentions modifiers
  match d.type with
  | .text type =>
      let make (name : String) (modifiers : List String) : Field :=
        .ofParts name type modifiers (marked || Field.isModelType type)
      (apply (apply (.ok make) (under (.key "name") (text d.name)))
        (under (.key "modifiers") (itemsFrom text 0 modifiers))).mapError .invalid
  | v => .error (.noType v.kind)

/-- The draft of a field by its texts. -/
def ofTexts (name type : String) (modifiers : List String) : Draft where
  name := .text name
  type := .text type
  modifiers := .ofTexts modifiers

theorem mentions_text (s : String) : mentions (.text s) = .ok (Text.contains mark s) := rfl

theorem anyMentions_texts (modifiers : List String) :
    anyMentions (modifiers.map .text) = .ok (modifiers.any (Text.contains mark)) := by
  induction modifiers with
  | nil => rfl
  | cons s rest ih =>
      cases h : Text.contains mark s <;>
        simp [anyMentions, mentions_text, h, ih, bind, Except.bind, pure, Except.pure]

theorem itemsFrom_texts (index : Nat) (modifiers : List String) :
    Checked.itemsFrom Checked.text index (modifiers.map .text) = .ok modifiers := by
  induction modifiers generalizing index with
  | nil => rfl
  | cons s rest ih =>
      simp [Checked.itemsFrom, Checked.text, Value.untied, Checked.under, Checked.apply, ih]

theorem items_ofTexts (modifiers : List String) :
    items (.ofTexts modifiers) = .ok (modifiers.map .text) := by
  cases modifiers <;> rfl

/-- A draft of texts makes the field that is derived from them. -/
theorem field_ofTexts (name type : String) (modifiers : List String) :
    (ofTexts name type modifiers).field = .ok (.derived name type modifiers) := by
  simp only [field, ofTexts, items_ofTexts, bind, Except.bind, anyMentions_texts,
    itemsFrom_texts, Checked.text, Value.untied, Checked.under, Checked.apply]
  rfl

end Draft

end SchemaDiagram
