/-
# SchemaDiagram.Schema.Record -- models, enums and relations out of their members

What is not given has its default; names and types have none.  Flags are taken as
they are given and not worked out.  A model is read field by field, up to the
first one with a problem, and only then by its own name.
-/
import SchemaDiagram.Data.Checked
import SchemaDiagram.Schema.Basic

namespace SchemaDiagram

set_option autoImplicit false

open Checked

def Field.ofMembers (m : Members) : Checked Field :=
  apply (apply (apply (apply (apply (.ok Field.mk)
    (required "name" text m))
    (required "type" text m))
    (member "modifiers" (listOf text) [] m))
    (member "is_relation" boolean false m))
    (member "relation_to" textOrNull none m)

/-- A model of these fields. -/
def Model.ofMembers (fields : List Members) (m : Members) : Checked Model := do
  let fields ← fields.mapM Field.ofMembers
  let name ← required "name" text m
  return { name, fields }

def Enumeration.ofMembers (m : Members) : Checked Enumeration :=
  apply (apply (.ok Enumeration.mk)
    (required "name" text m))
    (member "values" (listOf text) [] m)

def Cardinality.ofValue (v : Value) : Checked Cardinality :=
  match v with
  | .text s =>
      match Cardinality.ofName? s with
      | some c => .ok c
      | none => fail .notCardinality
  | _ => fail .notCardinality

def RelationArgs.ofMembers (m : Members) : Checked RelationArgs :=
  apply (apply (apply (apply (.ok RelationArgs.mk)
    (member "fields" (listOf text) [] m))
    (member "references" (listOf text) [] m))
    (member "on_delete" textOrNull none m))
    (member "on_update" textOrNull none m)

def Relation.ofMembers (m : Members) : Checked Relation :=
  apply (apply (apply (apply (apply (apply (.ok Relation.mk)
    (required "source_model" text m))
    (required "target_model" text m))
    (required "source_field" text m))
    (member "target_field" textOrNull none m))
    (required "relation_type" Cardinality.ofValue m))
    (member "relation_details" (section_ "RelationDetails" RelationArgs.ofMembers) {} m)

end SchemaDiagram
