import LibraryScout.Json.Printer
import LibraryScout.Json.Reader

/-!
Contract: the two forms of a JSON text as one.

Owns:
- `Layout`, the white space of a text: where a line starts, and what stands after a colon;
- the text of a value in a layout, of which the compact and the indented form are cases;
- the body of an array or object as a list of texts, the later ones with a comma before them.

Does not own: reading such a text.
-/

namespace LibraryScout.Json

def Blank (text : List Char) : Prop :=
  ∀ character ∈ text, isSpace character = true

/-- The white space between the parts of a text. -/
structure Layout where
  lineStart : Nat → List Char
  afterColon : List Char
  blankLine : ∀ depth, Blank (lineStart depth)
  blankColon : Blank afterColon

theorem blank_nil : Blank [] := by
  simp [Blank]

theorem blank_lineStart (depth : Nat) : Blank (lineStart depth) := by
  intro character member
  rcases List.mem_cons.1 member with rfl | spaces
  · rfl
  · obtain rfl := List.eq_of_mem_replicate spaces
    rfl

namespace Layout

def compact : Layout :=
  ⟨fun _ => [], [], fun _ => blank_nil, blank_nil⟩

def indented : Layout :=
  ⟨Json.lineStart, [' '], blank_lineStart, by simp [Blank, isSpace]⟩

variable (layout : Layout)

/-- Texts behind another one. -/
def following (depth : Nat) (texts : List (List Char)) : List Char :=
  texts.flatMap fun text => ',' :: (layout.lineStart depth ++ text)

/-- Texts on lines of their own. -/
def separated (depth : Nat) : List (List Char) → List Char
  | [] => []
  | first :: others => layout.lineStart depth ++ (first ++ layout.following depth others)

/-- What stands between the brackets of an array or object. -/
def body (depth : Nat) : List (List Char) → List Char
  | [] => []
  | first :: others => layout.separated (depth + 1) (first :: others) ++ layout.lineStart depth

/-- A member whose value has a given text. -/
def memberText (name : String) (text : List Char) : List Char :=
  literal name ++ ':' :: (layout.afterColon ++ text)

mutual

/-- A value at a depth of nesting. -/
def chars (depth : Nat) : Json → List Char
  | .null => "null".toList
  | .bool true => "true".toList
  | .bool false => "false".toList
  | .number value => value.text.toList
  | .string value => literal value
  | .array items => '[' :: (layout.body depth (itemTexts (depth + 1) items) ++ [']'])
  | .object members =>
      '\x7b' :: (layout.body depth (memberTexts (depth + 1) members) ++ ['\x7d'])

def itemTexts (depth : Nat) : List Json → List (List Char)
  | [] => []
  | item :: others => chars depth item :: itemTexts depth others

def memberTexts (depth : Nat) : List (String × Json) → List (List Char)
  | [] => []
  | (name, value) :: others =>
      layout.memberText name (chars depth value) :: memberTexts depth others

end

theorem itemTexts_eq (depth : Nat) (items : List Json) :
    layout.itemTexts depth items = items.map (layout.chars depth) := by
  induction items with
  | nil => rfl
  | cons item others inductionHypothesis =>
      rw [itemTexts, inductionHypothesis, List.map_cons]

theorem memberTexts_eq (depth : Nat) (members : List (String × Json)) :
    layout.memberTexts depth members =
      members.map fun member => layout.memberText member.1 (layout.chars depth member.2) := by
  induction members with
  | nil => rfl
  | cons member others inductionHypothesis =>
      rw [memberTexts, inductionHypothesis, List.map_cons]

end Layout

/-! ## The compact form -/

theorem compact_body (depth inner : Nat) (texts : List (List Char)) :
    Layout.compact.body depth texts = Layout.compact.separated inner texts := by
  cases texts with
  | nil => rfl
  | cons first others =>
      simp [Layout.body, Layout.separated, Layout.following, Layout.compact]

mutual

theorem compactChars_eq (depth : Nat) : (value : Json) →
    compactChars value = Layout.compact.chars depth value
  | .null => rfl
  | .bool true => rfl
  | .bool false => rfl
  | .number _ => rfl
  | .string _ => rfl
  | .array items => by
      simp only [compactChars, Layout.chars, compact_body depth (depth + 1),
        compactItems_eq (depth + 1) items, List.cons_append]
  | .object members => by
      simp only [compactChars, Layout.chars, compact_body depth (depth + 1),
        compactMembers_eq (depth + 1) members, List.cons_append]

theorem compactItems_eq (depth : Nat) : (items : List Json) →
    compactItems items = Layout.compact.separated depth (Layout.compact.itemTexts depth items)
  | [] => rfl
  | [item] => by
      rw [compactItems, compactChars_eq depth item]
      simp [Layout.itemTexts, Layout.separated, Layout.following, Layout.compact]
  | item :: next :: others => by
      rw [compactItems, compactChars_eq depth item, compactItems_eq depth (next :: others)]
      simp [Layout.itemTexts, Layout.separated, Layout.following, Layout.compact]

theorem compactMembers_eq (depth : Nat) : (members : List (String × Json)) →
    compactMembers members =
      Layout.compact.separated depth (Layout.compact.memberTexts depth members)
  | [] => rfl
  | [(name, value)] => by
      rw [compactMembers, compactChars_eq depth value]
      simp [Layout.memberTexts, Layout.memberText, Layout.separated, Layout.following,
        Layout.compact]
  | (name, value) :: next :: others => by
      rw [compactMembers, compactChars_eq depth value, compactMembers_eq depth (next :: others)]
      simp [Layout.memberTexts, Layout.memberText, Layout.separated, Layout.following,
        Layout.compact]

end

/-! ## The indented form -/

mutual

theorem indentedChars_eq (depth : Nat) : (value : Json) →
    indentedChars depth value = Layout.indented.chars depth value
  | .null => rfl
  | .bool true => rfl
  | .bool false => rfl
  | .number _ => rfl
  | .string _ => rfl
  | .array [] => rfl
  | .array (item :: others) => by
      rw [indentedChars, indentedItems_eq (depth + 1) (item :: others)]
      simp [Layout.chars, Layout.itemTexts, Layout.body, Layout.indented]
  | .object [] => rfl
  | .object ((name, value) :: others) => by
      rw [indentedChars, indentedMembers_eq (depth + 1) ((name, value) :: others)]
      simp [Layout.chars, Layout.memberTexts, Layout.body, Layout.indented]

theorem indentedItems_eq (depth : Nat) : (items : List Json) →
    indentedItems depth items =
      Layout.indented.separated depth (Layout.indented.itemTexts depth items)
  | [] => rfl
  | [item] => by
      rw [indentedItems, indentedChars_eq depth item]
      simp [Layout.itemTexts, Layout.separated, Layout.following, Layout.indented]
  | item :: next :: others => by
      rw [indentedItems, indentedChars_eq depth item, indentedItems_eq depth (next :: others)]
      simp [Layout.itemTexts, Layout.separated, Layout.following, Layout.indented]

theorem indentedMembers_eq (depth : Nat) : (members : List (String × Json)) →
    indentedMembers depth members =
      Layout.indented.separated depth (Layout.indented.memberTexts depth members)
  | [] => rfl
  | [(name, value)] => by
      rw [indentedMembers, indentedChars_eq depth value]
      simp [Layout.memberTexts, Layout.memberText, Layout.separated, Layout.following,
        Layout.indented]
  | (name, value) :: next :: others => by
      rw [indentedMembers, indentedChars_eq depth value,
        indentedMembers_eq depth (next :: others)]
      simp [Layout.memberTexts, Layout.memberText, Layout.separated, Layout.following,
        Layout.indented]

end

theorem compact_toList (value : Json) : value.compact.toList = Layout.compact.chars 0 value := by
  rw [compact, String.toList_ofList, compactChars_eq 0]

theorem indented_toList (value : Json) :
    value.indented.toList = Layout.indented.chars 0 value := by
  rw [indented, String.toList_ofList, indentedChars_eq]

end LibraryScout.Json
