/-
# SchemaDiagram.Proofs.Schema.WrittenArguments -- annotations, written and read

`Annotation` has what an annotation can say and how it can be written: a label in front,
a list of columns for the fields and one for what they reference, each column between
quotes or not and padded with spaces, and a word for each of the two actions.

The arguments are searched for by their keywords, one by one, in the same text.  No colon
stands in a value, and no keyword ends another one, so each search passes over the other
arguments and reads its value to the end (`firstAfter_arguments`).  Whatever the order of
the arguments and whatever stands around the annotation, each is read as it was said
(`ofLine_written`).
-/
import SchemaDiagram.Proofs.Schema.AnnotationText

namespace SchemaDiagram.RelationArgs

set_option autoImplicit false

open Text

/-! ## How an annotation is written -/

/-- A column or an action: ASCII letters, digits and underscores. -/
structure Name where
  text : String
  nonempty : text ≠ ""
  plain : text.toList.all (fun c => c.isAlphanum || c == '_') = true

inductive Quote where
  | single
  | double

def Quote.text : Quote → String
  | single => "'"
  | double => "\""

/-- What stands on both sides of a text in quotes, or of one without. -/
def mark : Option Quote → String
  | none => ""
  | some q => q.text

def spaces (n : Nat) : String :=
  String.ofList (List.replicate n ' ')

/-- A column, between quotes or not, with spaces around it. -/
structure Column where
  name : Name
  quote : Option Quote := none
  before : Nat := 0
  behind : Nat := 0

def Column.text (c : Column) : String :=
  spaces c.before ++ (mark c.quote ++ c.name.text ++ mark c.quote) ++ spaces c.behind

/-- Columns between brackets, with spaces in front of them. -/
structure ColumnList where
  gap : Nat := 1
  items : List Column
  nonempty : items ≠ []

namespace ColumnList

def names (l : ColumnList) : List String :=
  l.items.map (·.name.text)

def inside (l : ColumnList) : String :=
  join "," (l.items.map Column.text)

def text (l : ColumnList) : String :=
  spaces l.gap ++ "[" ++ l.inside ++ "]"

end ColumnList

/-- A word, with spaces in front of it. -/
structure Action where
  gap : Nat := 1
  word : Name

def Action.text (action : Action) : String :=
  spaces action.gap ++ action.word.text

/-- The keywords of lists of columns. -/
inductive ListKey where
  | fields
  | references
deriving DecidableEq

def ListKey.text : ListKey → String
  | fields => "fields"
  | references => "references"

/-- The keywords of actions. -/
inductive ActionKey where
  | onDelete
  | onUpdate
deriving DecidableEq

def ActionKey.text : ActionKey → String
  | onDelete => "onDelete"
  | onUpdate => "onUpdate"

inductive Argument where
  | list (key : ListKey) (columns : ColumnList)
  | action (key : ActionKey) (word : Action)

namespace Argument

def keyword : Argument → String
  | list key _ => key.text
  | action key _ => key.text

def value : Argument → String
  | list _ columns => columns.text
  | action _ word => word.text

def text (a : Argument) : String :=
  a.keyword ++ ":" ++ a.value

/-- The columns, if they are listed under that keyword. -/
def names? (key : ListKey) : Argument → Option (List String)
  | list key' columns => if key = key' then some columns.names else none
  | action _ _ => none

/-- The action, if it stands under that keyword. -/
def word? (key : ActionKey) : Argument → Option String
  | list _ _ => none
  | action key' word => if key = key' then some word.word.text else none

end Argument

/-- The name of a relation between quotes, and the commas and spaces, if any, between it
and the arguments. -/
structure Label where
  quote : Quote
  name : String
  word : name.toList.all isWordChar = true
  separator : String := ", "
  separates : separator.toList.all (fun c => c == ',' || c == ' ') = true

def Label.text (l : Label) : String :=
  l.quote.text ++ l.name ++ l.quote.text ++ l.separator

/-- What stands under the keywords, as far as they occur, and the label in front. -/
structure Annotation where
  label : Option Label := none
  lists : ListKey → Option ColumnList
  actions : ActionKey → Option Action

namespace Annotation

def front (a : Annotation) : String :=
  match a.label with
  | some label => label.text
  | none => ""

def arguments (a : Annotation) : List Argument :=
  [.fields, .references].filterMap (fun key => (a.lists key).map (.list key)) ++
    [.onDelete, .onUpdate].filterMap fun key => (a.actions key).map (.action key)

/-- What the annotation says. -/
def told (a : Annotation) : RelationArgs where
  fields := ((a.lists .fields).map ColumnList.names).getD []
  references := ((a.lists .references).map ColumnList.names).getD []
  onDelete := (a.actions .onDelete).map (·.word.text)
  onUpdate := (a.actions .onUpdate).map (·.word.text)

end Annotation

/-! ## The characters of its parts -/

theorem not_mem_of_forall {p : Char → Bool} {cs : List Char} (each : ∀ c ∈ cs, p c = true)
    {b : Char} (outside : p b = false) : b ∉ cs := by
  intro member
  rw [each b member] at outside
  cases outside

/-- What columns are written with. -/
def isColumnChar (c : Char) : Bool :=
  isWordChar c || c == ' ' || c == '"' || c == '\''

/-- What is written in values and in front of the arguments. -/
def isValueChar (c : Char) : Bool :=
  isColumnChar c || c == '[' || c == ']' || c == ','

theorem isColumnChar_of_isWordChar {c : Char} (word : isWordChar c = true) :
    isColumnChar c = true := by
  simp [isColumnChar, word]

theorem not_mem_of_isWordChar {cs : List Char} (word : ∀ c ∈ cs, isWordChar c = true) {b : Char}
    (outside : isColumnChar b = false) : b ∉ cs :=
  not_mem_of_forall (fun c member => isColumnChar_of_isWordChar (word c member)) outside

theorem isValueChar_eq_false_iff {c : Char} : isValueChar c = false ↔
    isColumnChar c = false ∧ c ≠ '[' ∧ c ≠ ']' ∧ c ≠ ',' := by
  simp [isValueChar, and_assoc]

theorem not_blank_of_isWordChar {c : Char} (word : isWordChar c = true) : isBlank c = false := by
  cases blank : isBlank c with
  | false => rfl
  | true =>
      rw [isWordChar_of_blank c blank] at word
      cases word

theorem notQuote_of_isWordChar {c : Char} (word : isWordChar c = true) : notQuote c = true := by
  rw [notQuote, Bool.and_eq_true, bne_iff_ne, bne_iff_ne]
  constructor <;> rintro rfl <;> revert word <;> decide

theorem eq_of_mem_spaces {n : Nat} {c : Char} (member : c ∈ (spaces n).toList) : c = ' ' := by
  rw [spaces, String.toList_ofList] at member
  exact List.eq_of_mem_replicate member

theorem isBlank_spaces (n : Nat) : ∀ c ∈ (spaces n).toList, isBlank c = true := by
  intro c member
  rw [eq_of_mem_spaces member]
  exact space_isBlank

theorem isColumnChar_spaces (n : Nat) : ∀ c ∈ (spaces n).toList, isColumnChar c = true := by
  intro c member
  rw [eq_of_mem_spaces member]
  decide

theorem isColumnChar_mark (quote : Option Quote) :
    ∀ c ∈ (mark quote).toList, isColumnChar c = true := by
  rw [← List.all_eq_true]
  rcases quote with _ | _ | _ <;> decide

theorem not_notQuote_mark (quote : Option Quote) :
    ∀ c ∈ (mark quote).toList, notQuote c = false := by
  simp only [← Bool.not_eq_true']
  rw [← List.all_eq_true]
  rcases quote with _ | _ | _ <;> decide

theorem Quote.not_isWordChar (q : Quote) : ∀ c ∈ q.text.toList, isWordChar c = false := by
  simp only [← Bool.not_eq_true']
  rw [← List.all_eq_true]
  cases q <;> decide

namespace Name

variable (n : Name)

theorem toList_ne_nil : n.text.toList ≠ [] :=
  fun empty => n.nonempty (String.toList_inj.1 empty)

theorem isWordChar_of_mem : ∀ c ∈ n.text.toList, isWordChar c = true := by
  intro c member
  rw [isWordChar, List.all_eq_true.1 n.plain c member, Bool.true_or]

end Name

/-! ## Reading a column -/

namespace Column

variable (c : Column)

theorem toList_text : c.text.toList = (spaces c.before).toList ++
    (((mark c.quote).toList ++ c.name.text.toList ++ (mark c.quote).toList) ++
      (spaces c.behind).toList) := by
  simp [text]

theorem isColumnChar_of_mem : ∀ d ∈ c.text.toList, isColumnChar d = true := by
  intro d member
  simp only [toList_text, List.mem_append] at member
  rcases member with before | ((front | inside) | back) | behind
  · exact isColumnChar_spaces _ d before
  · exact isColumnChar_mark _ d front
  · exact isColumnChar_of_isWordChar (c.name.isWordChar_of_mem d inside)
  · exact isColumnChar_mark _ d back
  · exact isColumnChar_spaces _ d behind

theorem toList_text_ne_nil : c.text.toList ≠ [] := by
  simp [toList_text, c.name.toList_ne_nil]

/-- A column is read without its spaces and its quotes. -/
theorem strip_text : (strip isBlank c.text.toList).filter notQuote = c.name.text.toList := by
  have quoted : Bare isBlank
      ((mark c.quote).toList ++ c.name.text.toList ++ (mark c.quote).toList) := by
    refine bare_of_forall fun d member => ?_
    rw [List.mem_append, List.mem_append] at member
    rcases member with (front | inside) | back
    · exact not_blank_of_quote (not_notQuote_mark _ d front)
    · exact not_blank_of_isWordChar (c.name.isWordChar_of_mem d inside)
    · exact not_blank_of_quote (not_notQuote_mark _ d back)
  have noMark : (mark c.quote).toList.filter notQuote = [] :=
    List.filter_eq_nil_iff.2 fun d member => by simp [not_notQuote_mark _ d member]
  have name : c.name.text.toList.filter notQuote = c.name.text.toList :=
    List.filter_eq_self.2 fun d member => notQuote_of_isWordChar (c.name.isWordChar_of_mem d member)
  rw [toList_text, strip_append_left (isBlank_spaces _), strip_append_right (isBlank_spaces _),
    strip_of_bare quoted, List.filter_append, List.filter_append, noMark, name, List.nil_append,
    List.append_nil]

end Column

/-! ## Reading a value -/

theorem upTo_append_stop {stop : Char} {body : List Char} (nonempty : body ≠ [])
    (absent : stop ∉ body) (rest : List Char) : upTo stop (body ++ stop :: rest) = some body := by
  have reads : ∀ c ∈ body, (c != stop) = true := fun c member => by
    rw [bne_iff_ne]
    rintro rfl
    exact absent member
  simp [upTo, List.takeWhile_append_of_pos reads, List.dropWhile_append_of_pos reads, nonempty]

namespace ColumnList

variable (l : ColumnList)

theorem inside_ne_nil : l.inside.toList ≠ [] := by
  refine join_ne_nil "," (by simp [l.nonempty]) fun s member => ?_
  obtain ⟨c, -, rfl⟩ := List.mem_map.1 member
  exact c.toList_text_ne_nil

theorem not_mem_inside {b : Char} (outside : isColumnChar b = false) (other : b ≠ ',') :
    b ∉ l.inside.toList := by
  refine not_mem_join "," (by simpa using other) fun s member => ?_
  obtain ⟨c, -, rfl⟩ := List.mem_map.1 member
  exact not_mem_of_forall c.isColumnChar_of_mem outside

theorem columns_inside : columns l.inside.toList = l.names := by
  have free : ∀ s ∈ l.items.map Column.text, ',' ∉ s.toList := by
    intro s member
    obtain ⟨c, -, rfl⟩ := List.mem_map.1 member
    exact not_mem_of_forall c.isColumnChar_of_mem (by decide)
  rw [columns, inside, piecesOf_join (by decide) (by simp [l.nonempty]) free, List.map_map,
    List.map_map, names]
  refine List.map_congr_left fun c _ => ?_
  rw [Function.comp_apply, Function.comp_apply, ← String.toList_inj, String.toList_ofList]
  exact c.strip_text

/-- The columns are read, whatever follows. -/
theorem bracketed_append (tail : List Char) :
    (bracketed (l.text.toList ++ tail)).map columns = some l.names := by
  have parts : l.text.toList ++ tail =
      (spaces l.gap).toList ++ '[' :: (l.inside.toList ++ ']' :: tail) := by
    simp [text]
  have opens : ('[' :: (l.inside.toList ++ ']' :: tail)).dropWhile isBlank =
      '[' :: (l.inside.toList ++ ']' :: tail) := rfl
  have closes := upTo_append_stop l.inside_ne_nil
    (l.not_mem_inside (by decide) (by decide : ']' ≠ ',')) tail
  rw [parts, bracketed, List.dropWhile_append_of_pos (isBlank_spaces _), opens]
  change (upTo ']' _).map columns = _
  rw [closes, Option.map_some, columns_inside]

theorem not_mem_text {b : Char} (outside : isValueChar b = false) : b ∉ l.text.toList := by
  obtain ⟨column, opening, closing, comma⟩ := isValueChar_eq_false_iff.1 outside
  have padding := not_mem_of_forall (isColumnChar_spaces l.gap) column
  simp [text, padding, opening, l.not_mem_inside column comma, closing]

end ColumnList

namespace Action

variable (action : Action)

/-- The word is read, if it does not go on behind it. -/
theorem nextWord_append {tail : List Char} (ends : ∀ c ∈ tail.head?, isWordChar c = false) :
    nextWord (action.text.toList ++ tail) = some action.word.text.toList := by
  have parts : action.text.toList ++ tail =
      (spaces action.gap).toList ++ (action.word.text.toList ++ tail) := by
    simp [text]
  have starts : ∀ c ∈ (action.word.text.toList ++ tail).head?, isBlank c = false := by
    rw [List.head?_append_of_ne_nil _ action.word.toList_ne_nil]
    intro c first
    exact not_blank_of_isWordChar (action.word.isWordChar_of_mem c (List.mem_of_mem_head? first))
  have stops : tail.takeWhile isWordChar = [] := by
    cases tail with
    | nil => rfl
    | cons c tail => exact List.takeWhile_cons_of_neg (by simp [ends c rfl])
  simp only [nextWord]
  rw [parts, List.dropWhile_append_of_pos (isBlank_spaces _), dropWhile_of_head starts,
    List.takeWhile_append_of_pos action.word.isWordChar_of_mem, stops, List.append_nil]
  simp [action.word.toList_ne_nil]

theorem not_mem_text {b : Char} (outside : isValueChar b = false) :
    b ∉ action.text.toList := by
  obtain ⟨column, -⟩ := isValueChar_eq_false_iff.1 outside
  have padding := not_mem_of_forall (isColumnChar_spaces action.gap) column
  have word := not_mem_of_isWordChar action.word.isWordChar_of_mem column
  simp [text, padding, word]

end Action

theorem ListKey.isWordChar_text (key : ListKey) : ∀ c ∈ key.text.toList, isWordChar c = true := by
  rw [← List.all_eq_true]
  cases key <;> decide

theorem ActionKey.isWordChar_text (key : ActionKey) :
    ∀ c ∈ key.text.toList, isWordChar c = true := by
  rw [← List.all_eq_true]
  cases key <;> decide

namespace Argument

variable (a : Argument)

theorem not_mem_value {b : Char} (outside : isValueChar b = false) : b ∉ a.value.toList := by
  cases a with
  | list key columns => exact columns.not_mem_text outside
  | action key word => exact word.not_mem_text outside

theorem isWordChar_keyword : ∀ c ∈ a.keyword.toList, isWordChar c = true := by
  cases a with
  | list key _ => exact key.isWordChar_text
  | action key _ => exact key.isWordChar_text

theorem not_mem_text {b : Char} (outside : isValueChar b = false) (colon : b ≠ ':') :
    b ∉ a.text.toList := by
  obtain ⟨column, -⟩ := isValueChar_eq_false_iff.1 outside
  have word := not_mem_of_isWordChar a.isWordChar_keyword column
  simp [text, word, colon, a.not_mem_value outside]

theorem toList_text_ne_nil : a.text.toList ≠ [] := by
  simp [text]

end Argument

/-! ## Searching for a keyword -/

/-- The text does not end inside a word. -/
def EndsWord (cs : List Char) : Prop :=
  ∀ c ∈ cs.getLast?, isWordChar c = false

/-- What is in front of a word and does not end inside one makes no difference for how the
word ends. -/
theorem suffix_append_iff {key front word : List Char} (each : ∀ c ∈ key, isWordChar c = true)
    (ends : EndsWord front) : key <:+ front ++ word ↔ key <:+ word := by
  rcases List.eq_nil_or_concat front with rfl | ⟨front, b, rfl⟩
  · rw [List.nil_append]
  · have outside : isWordChar b = false := ends b (by simp)
    rw [List.concat_eq_append, List.append_assoc, List.singleton_append]
    exact suffix_append_cons_iff (not_mem_of_forall each outside)

/-- What `read` reads behind the keyword of an argument is what `pick` takes out of it, and
behind no other keyword is anything looked for. -/
def Picks {α : Type} (key : String) (read : List Char → Option α) (pick : Argument → Option α) :
    Prop :=
  ∀ (a : Argument) (tail : List Char), (∀ c ∈ tail.head?, isWordChar c = false) →
    (if key.toList <:+ a.keyword.toList then read (a.value.toList ++ tail) else none) = pick a

/-- What stands behind a value that these arguments follow. -/
def following : List Argument → String
  | [] => ""
  | a :: rest => ", " ++ join ", " ((a :: rest).map Argument.text)

theorem join_text_cons (a : Argument) (rest : List Argument) :
    join ", " ((a :: rest).map Argument.text) =
      a.keyword ++ ":" ++ (a.value ++ following rest) := by
  cases rest <;> simp [join, Argument.text, following, String.append_assoc]

theorem isWordChar_head_following (rest : List Argument) :
    ∀ c ∈ (following rest).toList.head?, isWordChar c = false := by
  have comma : isWordChar ',' = false := by decide
  cases rest <;> simp [following, comma]

/-- A search among arguments finds the first one of them to take something out of. -/
theorem firstAfter_arguments {α : Type} {key : String} {read : List Char → Option α}
    {pick : Argument → Option α} (word : ∀ c ∈ key.toList, isWordChar c = true)
    (picks : Picks key read pick) (order : List Argument) :
    ∀ front : String, ':' ∉ front.toList → EndsWord front.toList →
      firstAfter (key.toList ++ [':']) read (front ++ join ", " (order.map Argument.text)).toList =
        order.findSome? pick := by
  have inKey : ':' ∉ key.toList := not_mem_of_forall word (by decide)
  have colon : ':' ∈ key.toList ++ [':'] := by simp
  induction order with
  | nil =>
      intro front free _
      exact firstAfter_of_not_mem colon read (by simpa [join] using free)
  | cons a rest ih =>
      intro front free ends
      have value : ':' ∉ a.value.toList := a.not_mem_value (by decide)
      have later : firstAfter (key.toList ++ [':']) read (a.value ++ following rest).toList =
          rest.findSome? pick := by
        cases rest with
        | nil => exact firstAfter_of_not_mem colon read (by simpa [following] using value)
        | cons b rest =>
            -- The value with the comma and the space is what stands in front of the others.
            have blank : isWordChar ' ' = false := by decide
            rw [following, ← String.append_assoc]
            exact ih (a.value ++ ", ") (by simp [value]) (by simp [EndsWord, blank])
      have whole : (front ++ join ", " ((a :: rest).map Argument.text)).toList =
          (front.toList ++ a.keyword.toList) ++ ':' :: (a.value ++ following rest).toList := by
        rw [join_text_cons]
        simp
      have before : ':' ∉ front.toList ++ a.keyword.toList :=
        List.not_mem_append free (not_mem_of_forall a.isWordChar_keyword (by decide))
      have keyword : key.toList <:+ front.toList ++ a.keyword.toList ↔
          key.toList <:+ a.keyword.toList := suffix_append_iff word ends
      have here := picks a (following rest).toList (isWordChar_head_following rest)
      rw [← String.toList_append] at here
      rw [whole, firstAfter_stop inKey read before, if_congr keyword rfl rfl, here, later,
        List.findSome?_cons]
      cases pick a <;> rfl

/-! ## The arguments of an annotation -/

theorem ListKey.suffix_iff {key key' : ListKey} :
    key.text.toList <:+ key'.text.toList ↔ key = key' := by
  cases key <;> cases key' <;> decide

theorem ActionKey.suffix_iff {key key' : ActionKey} :
    key.text.toList <:+ key'.text.toList ↔ key = key' := by
  cases key <;> cases key' <;> decide

theorem not_suffix_of_kinds (list : ListKey) (action : ActionKey) :
    ¬ list.text.toList <:+ action.text.toList ∧ ¬ action.text.toList <:+ list.text.toList := by
  cases list <;> cases action <;> decide

theorem picks_names (key : ListKey) :
    Picks key.text (fun cs => (bracketed cs).map columns) (Argument.names? key) := by
  intro a tail _
  cases a with
  | list key' list =>
      rw [Argument.names?, ← if_congr ListKey.suffix_iff rfl rfl, ← list.bracketed_append tail]
      rfl
  | action key' _ => exact if_neg (not_suffix_of_kinds key key').1

theorem picks_word (key : ActionKey) :
    Picks key.text (fun cs => (nextWord cs).map String.ofList) (Argument.word? key) := by
  intro a tail stops
  cases a with
  | list key' _ => exact if_neg (not_suffix_of_kinds key' key).2
  | action key' action =>
      have read : (nextWord (action.text.toList ++ tail)).map String.ofList =
          some action.word.text := by
        rw [action.nextWord_append stops, Option.map_some, String.ofList_toList]
      rw [Argument.word?, ← if_congr ActionKey.suffix_iff rfl rfl, ← read]
      rfl

/-- Of what only one element gives, the order makes no difference. -/
theorem findSome?_of_perm {α β : Type} {order list : List α} (perm : order.Perm list)
    {pick : α → Option β} {found : Option β} (only : list.filterMap pick = found.toList) :
    order.findSome? pick = found := by
  have picked := perm.filterMap pick
  rw [only] at picked
  rw [← List.head?_filterMap]
  cases found with
  | none => rw [List.perm_nil.1 picked]; rfl
  | some b => rw [List.perm_singleton.1 picked]; rfl

theorem Label.eq_of_mem_separator (l : Label) : ∀ c ∈ l.separator.toList, c = ',' ∨ c = ' ' := by
  simpa using l.separates

namespace Annotation

variable (a : Annotation)

theorem filterMap_names (key : ListKey) :
    a.arguments.filterMap (Argument.names? key) = ((a.lists key).map ColumnList.names).toList := by
  have list (key' : ListKey) : ((a.lists key').map (.list key')).bind (Argument.names? key) =
      if key = key' then (a.lists key').map ColumnList.names else none := by
    cases a.lists key' with
    | none => exact (ite_self none).symm
    | some list => rfl
  have action (key' : ActionKey) :
      ((a.actions key').map (.action key')).bind (Argument.names? key) = none := by
    cases a.actions key' <;> rfl
  rw [arguments, List.filterMap_append, List.filterMap_filterMap, List.filterMap_filterMap]
  simp only [list, action]
  cases key with
  | fields => cases given : a.lists .fields <;> simp [given]
  | references => cases given : a.lists .references <;> simp [given]

theorem filterMap_word (key : ActionKey) :
    a.arguments.filterMap (Argument.word? key) = ((a.actions key).map (·.word.text)).toList := by
  have list (key' : ListKey) :
      ((a.lists key').map (.list key')).bind (Argument.word? key) = none := by
    cases a.lists key' <;> rfl
  have action (key' : ActionKey) :
      ((a.actions key').map (.action key')).bind (Argument.word? key) =
        if key = key' then (a.actions key').map (·.word.text) else none := by
    cases a.actions key' with
    | none => exact (ite_self none).symm
    | some action => rfl
  rw [arguments, List.filterMap_append, List.filterMap_filterMap, List.filterMap_filterMap]
  simp only [list, action]
  cases key with
  | onDelete => cases given : a.actions .onDelete <;> simp [given]
  | onUpdate => cases given : a.actions .onUpdate <;> simp [given]

theorem not_mem_front {b : Char} (outside : isValueChar b = false) : b ∉ a.front.toList := by
  obtain ⟨column, -, -, comma⟩ := isValueChar_eq_false_iff.1 outside
  rw [front]
  split
  · rename_i label _
    have quote := not_mem_of_forall (isColumnChar_mark (some label.quote)) column
    have name := not_mem_of_isWordChar (List.all_eq_true.1 label.word) column
    have separator : b ∉ label.separator.toList := by
      intro member
      rcases label.eq_of_mem_separator b member with rfl | rfl
      · exact comma rfl
      · revert column
        decide
    simp only [mark] at quote
    simp [Label.text, quote, name, separator]
  · simp

theorem endsWord_front : EndsWord a.front.toList := by
  rw [front]
  split
  · rename_i label _
    intro c last
    rw [Label.text, String.toList_append, List.getLast?_append, Option.mem_def,
      Option.or_eq_some_iff] at last
    rcases last with separator | ⟨-, quote⟩
    · have cut := label.eq_of_mem_separator c (List.mem_of_mem_getLast? separator)
      rcases cut with rfl | rfl <;> decide
    · rw [String.toList_append,
        List.getLast?_append_of_ne_nil _ (by cases label.quote <;> decide)] at quote
      exact label.quote.not_isWordChar c (List.mem_of_mem_getLast? quote)
  · simp [EndsWord]

theorem ofArguments_written {order : List Argument} (perm : order.Perm a.arguments) :
    ofArguments (a.front ++ join ", " (order.map Argument.text)).toList = a.told := by
  have free : ':' ∉ a.front.toList := a.not_mem_front (by decide)
  have list (key : ListKey) :
      (firstAfter (key.text.toList ++ [':']) bracketed
        (a.front ++ join ", " (order.map Argument.text)).toList).map columns =
          (a.lists key).map ColumnList.names := by
    rw [← firstAfter_map, firstAfter_arguments key.isWordChar_text (picks_names key) order _ free
      a.endsWord_front]
    exact findSome?_of_perm perm (a.filterMap_names key)
  have action (key : ActionKey) :
      (firstAfter (key.text.toList ++ [':']) nextWord
        (a.front ++ join ", " (order.map Argument.text)).toList).map String.ofList =
          (a.actions key).map (·.word.text) := by
    rw [← firstAfter_map, firstAfter_arguments key.isWordChar_text (picks_word key) order _ free
      a.endsWord_front]
    exact findSome?_of_perm perm (a.filterMap_word key)
  rw [told, ← list .fields, ← list .references, ← action .onDelete, ← action .onUpdate]
  rfl

end Annotation

/-- **Arguments are read as they are said,** in any order, whatever stands in front of the
first annotation of a line and behind its arguments. -/
theorem ofLine_written (a : Annotation) (order : List Argument) (perm : order.Perm a.arguments)
    (nonempty : order ≠ []) (front back : String) (first : contains "@relation(" front = false) :
    ofLine (front ++ "@relation(" ++ a.front ++ join ", " (order.map Argument.text) ++ ")" ++
      back) = a.told := by
  have closing : ')' ∉ (a.front ++ join ", " (order.map Argument.text)).toList := by
    rw [String.toList_append]
    refine List.not_mem_append (a.not_mem_front (by decide))
      (not_mem_join ", " (by decide) fun s member => ?_)
    obtain ⟨argument, -, rfl⟩ := List.mem_map.1 member
    exact argument.not_mem_text (by decide) (by decide)
  have full : (a.front ++ join ", " (order.map Argument.text)).toList ≠ [] := by
    have each : ∀ s ∈ order.map Argument.text, s.toList ≠ [] := by
      intro s member
      obtain ⟨argument, -, rfl⟩ := List.mem_map.1 member
      exact argument.toList_text_ne_nil
    rw [String.toList_append]
    exact List.append_ne_nil_of_right_ne_nil _ (join_ne_nil ", " (by simpa using nonempty) each)
  have read := upTo_append_stop full closing back.toList
  have absent : ¬ "@relation(".toList <:+: front.toList := by
    rwa [← contains_iff, Bool.not_eq_true]
  have key : "@relation(".toList = '@' :: "relation(".toList := by decide
  have found := firstAfter_of_first (by decide) (key ▸ absent) read
  have parts : (front ++ "@relation(" ++ a.front ++ join ", " (order.map Argument.text) ++ ")" ++
      back).toList = front.toList ++ ("@relation(".toList ++
        ((a.front ++ join ", " (order.map Argument.text)).toList ++ ')' :: back.toList)) := by
    simp
  rw [ofLine, parts, key, found]
  exact a.ofArguments_written perm

/-- A label, then an action, the columns referenced and the fields, the latter in quotes
and with spaces around them.  Behind them stands one more annotation. -/
theorem ofLine_written_backwards :
    ofLine ("author User @relation(\"Blog\", onDelete: Cascade, references:[id], " ++
      "fields: [ \"a_1\" ,'b']) @relation(fields: [c])") =
        { fields := ["a_1", "b"], references := ["id"], onDelete := some "Cascade" } := by
  let fields : ColumnList :=
    { items := [⟨⟨"a_1", by decide, by decide⟩, some .double, 1, 1⟩,
        ⟨⟨"b", by decide, by decide⟩, some .single, 0, 0⟩]
      nonempty := by decide }
  let references : ColumnList :=
    { gap := 0, items := [{ name := ⟨"id", by decide, by decide⟩ }], nonempty := by decide }
  let onDelete : Action := { word := ⟨"Cascade", by decide, by decide⟩ }
  let a : Annotation :=
    { label := some
        { quote := .double
          name := "Blog"
          word := by decide
          separates := by decide }
      lists := fun | .fields => some fields | .references => some references
      actions := fun | .onDelete => some onDelete | .onUpdate => none }
  have read := ofLine_written a a.arguments.reverse (List.reverse_perm _) (by decide)
    "author User " " @relation(fields: [c])" (by decide)
  have line : "author User " ++ "@relation(" ++ a.front ++
      join ", " (a.arguments.reverse.map Argument.text) ++ ")" ++ " @relation(fields: [c])" =
        "author User @relation(\"Blog\", onDelete: Cascade, references:[id], " ++
          "fields: [ \"a_1\" ,'b']) @relation(fields: [c])" := by
    decide +kernel
  rw [← line, read]
  rfl

end SchemaDiagram.RelationArgs
