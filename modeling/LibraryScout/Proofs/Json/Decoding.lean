import LibraryScout.Json.Shape
import LibraryScout.Proofs.Json.Value

/-!
Contract: decoders take data back from its text.

Owns:
- `Decodes`, that a decoder comes to a value from data in any layout;
- texts, numbers, optional values, lists and maps;
- records, whose members may be read in any order as long as no name is repeated and no required
  field is missing;
- variants.

Does not own: which data stands for a value.
-/

namespace LibraryScout.Json

open LibraryScout.Text (StopsBefore)

/-- A decoder comes to a value from data, however the data is laid out. -/
structure Decodes {α : Type} (decoder : Decoder α) (depth : Nat) (data : Json) (value : α) :
    Prop where
  opens : ∀ layout level, Opens (Layout.chars layout level data)
  reads : ∀ layout level, Reads (decoder depth) (Layout.chars layout level data) value

/-- What a decoder comes to may be changed afterwards. -/
theorem Decodes.map {α β : Type} {decoder : Decoder α} {depth : Nat} {data : Json} {value : α}
    (decodes : Decodes decoder depth data value) (change : α → β) :
    Decodes (fun depth input => (decoder depth input).map fun (value, rest) => (change value, rest))
      depth data (change value) := by
  refine ⟨decodes.opens, fun layout level gap rest blank stops => ?_⟩
  simp only [decodes.reads layout level gap rest blank stops]
  rfl

/-- Both texts of data are decoded. -/
theorem Decodes.decode {α : Type} {decoder : Decoder α} {data : Json} {value : α}
    (decodes : Decodes decoder depthLimit data value) :
    decode decoder data.compact = .ok value ∧ decode decoder data.indented = .ok value := by
  have nothing : StopsBefore continuesNumber [] := by simp [StopsBefore]
  have whole : ∀ layout : Layout, decoder depthLimit (layout.chars 0 data) = .ok (value, []) := by
    intro layout
    have read := (decodes.reads layout 0).bare nothing
    rwa [List.append_nil] at read
  refine ⟨?_, ?_⟩
  · rw [Json.decode, Json.whole, compact_toList, whole]
    rfl
  · rw [Json.decode, Json.whole, indented_toList, whole]
    rfl

/-! ## Plain values -/

theorem decodes_text (depth : Nat) (text : String) :
    Decodes Decoder.text depth (.string text) text := by
  refine ⟨fun _ _ => opens_literal text, fun layout level => ?_⟩
  refine Reads.of_skipSpace (opens_literal text) (fun input => ?_) fun rest _ => ?_
  · unfold Decoder.text
    rw [skipSpace_skipSpace]
  · unfold Decoder.text
    rw [Layout.chars, skipSpace_of_opens (opens_literal text), literal_append]
    exact stringLiteral_escaped text rest

theorem decodes_any {depth : Nat} {value : Json} (whole : Whole depth value) :
    Decodes Decoder.any depth value value :=
  ⟨fun layout level => opens_chars layout level whole, reads_of_whole whole⟩

/-- Reading undoes writing. -/
theorem parse_compact {value : Json} (whole : Whole depthLimit value) :
    parse value.compact = .ok value :=
  (decodes_any whole).decode.1

theorem decodes_bounded (depth : Nat) {largest value : Nat} (expected : String)
    (fits : value ≤ largest) (inRange : largest ≤ largestWhole) :
    Decodes (Decoder.bounded largest expected) depth (natural value) value := by
  have whole := isWhole_natural (Nat.le_trans fits inRange)
  obtain ⟨first, others, written, starts⟩ := exists_startsNumber whole
  have opens : Opens (Number.integer value).text.toList := written ▸ starts.opens others
  refine ⟨fun _ _ => opens, fun layout level => ?_⟩
  refine Reads.of_skipSpace opens (fun input => ?_) fun rest stops => ?_
  · unfold Decoder.bounded
    rw [skipSpace_skipSpace]
  · have read : numberLiteral ((Number.integer value).text.toList ++ rest) =
        .ok (.integer value, rest) := by
      rw [text_natural]
      exact numberLiteral_natural (Nat.le_trans fits inRange) stops
    have either : (decide (first = '-') || isDigit first) = true := by
      simpa [StartsNumber] using starts
    have bounds : (decide ((0 : Int) ≤ value) && decide ((value : Int) ≤ largest)) = true := by
      simpa using fits
    unfold Decoder.bounded
    rw [natural, Layout.chars, skipSpace_of_opens opens]
    rw [written, List.cons_append] at read ⊢
    simp only [either, if_true, read, bounds, Int.toNat_natCast]

theorem decodes_none {α : Type} (inner : Decoder α) (depth : Nat) :
    Decodes (Decoder.optional inner) depth .null none := by
  have opens : Opens "null".toList := opens_cons _ (by decide) (by decide) (by decide)
  refine ⟨fun _ _ => opens, fun layout level => ?_⟩
  refine Reads.of_skipSpace opens (fun input => ?_) fun rest _ => ?_
  · unfold Decoder.optional
    rw [skipSpace_skipSpace]
  · unfold Decoder.optional
    rw [Layout.chars, skipSpace_of_opens opens]
    rfl

theorem decodes_some {α : Type} {inner : Decoder α} {depth : Nat} {data : Json} {value : α}
    (decodes : Decodes inner depth data value)
    (notNull : ∀ layout level, (Layout.chars layout level data).head? ≠ some 'n') :
    Decodes (Decoder.optional inner) depth data (some value) := by
  refine ⟨decodes.opens, fun layout level => ?_⟩
  refine Reads.of_skipSpace (decodes.opens layout level) (fun input => ?_) fun rest stops => ?_
  · unfold Decoder.optional
    rw [skipSpace_skipSpace]
  · have read := (decodes.reads layout level).bare stops
    have starts := notNull layout level
    obtain ⟨first, others, written, _⟩ := decodes.opens layout level
    unfold Decoder.optional
    rw [skipSpace_of_opens (decodes.opens layout level)]
    rw [written] at read starts ⊢
    split
    · rename_i null
      exact absurd (congrArg some (List.cons.inj null).1) starts
    · rw [read]
      rfl

/-! ## Lists and maps -/

theorem opens_array (layout : Layout) (level : Nat) (items : List Json) :
    Opens (layout.chars level (.array items)) :=
  opens_cons _ (by decide) (by decide) (by decide)

theorem opens_object (layout : Layout) (level : Nat) (members : Members) :
    Opens (layout.chars level (.object members)) :=
  opens_cons _ (by decide) (by decide) (by decide)

theorem decodes_list {α : Type} {item : Decoder α} {depth : Nat} {values : List α}
    {encode : α → Json} (each : ∀ value ∈ values, Decodes item depth (encode value) value) :
    Decodes (Decoder.list item) (depth + 1) (.array (values.map encode)) values := by
  refine ⟨fun layout level => opens_array layout level _, fun layout level => ?_⟩
  refine Reads.of_skipSpace (opens_array layout level _) (fun input => ?_) fun rest _ => ?_
  · unfold Decoder.list
    rw [skipSpace_skipSpace]
  · have body := listBody_body layout level
      (fun value member => (each value member).reads layout (level + 1))
      (fun value member => (each value member).opens layout (level + 1)) rest
    have opened : ∀ input, Decoder.list item (depth + 1) ('[' :: input) =
        listBody (item depth) input := fun _ => rfl
    rw [Layout.chars, Layout.itemTexts_eq, List.map_map, List.cons_append, List.append_assoc,
      List.singleton_append, opened]
    exact body

theorem decodes_map {depth : Nat} {members : Members} (whole : Whole depth (.object members)) :
    Decodes Decoder.map depth (.object members) members := by
  refine ⟨fun layout level => opens_object layout level members, fun layout level => ?_⟩
  refine Reads.of_skipSpace (opens_object layout level members) (fun input => ?_)
    fun rest stops => ?_
  · unfold Decoder.map
    rw [skipSpace_skipSpace]
  · cases whole with
    | @object depth _ each distinct =>
        have body := objectBody_body layout level
          (fun member isMember => reads_of_whole (each member isMember) layout (level + 1)) rest
        have opened : ∀ input, Decoder.map (depth + 1) ('\x7b' :: input) =
            (objectBody (Json.value depth) input).map fun found =>
              (Members.ofPairs found.1, found.2) :=
          fun _ => rfl
        rw [Layout.chars, Layout.memberTexts_eq, List.cons_append, List.append_assoc,
          List.singleton_append, opened, body]
        simp [Except.map, Members.ofPairs_of_nodup distinct]

/-! ## Records -/

namespace Shape

variable {β : Type}

/-- The reader for a member with a name. -/
def readerFor (shape : Shape β) (name : String) : Decoder (β → β) :=
  match shape.fields.find? fun field => field.name == name with
  | some field => field.read
  | none => shape.otherMember name

/-- A member of a record: its value, and how it changes the record under construction. -/
structure Entry (β : Type) where
  name : String
  data : Json
  change : β → β

def Entry.member (entry : Entry β) : String × Json :=
  (entry.name, entry.data)

/-- Members put together, in their order. -/
def assembled (start : β) (entries : List (Entry β)) : β :=
  entries.foldl (fun record entry => entry.change record) start

/-- Members of a record that can be read back: each by its own reader, no name twice, and every
required field among them. -/
structure Readable (shape : Shape β) (depth : Nat) (entries : List (Entry β)) : Prop where
  each : ∀ entry ∈ entries, Decodes (shape.readerFor entry.name) depth entry.data entry.change
  distinct : (entries.map Entry.name).Nodup
  required : ∀ field ∈ shape.fields, field.required = true → field.name ∈ entries.map Entry.name

theorem missing?_eq_none {shape : Shape β} {seen : List String}
    (present : ∀ field ∈ shape.fields, field.required = true → field.name ∈ seen) :
    shape.missing? seen = none := by
  rw [missing?, Option.map_eq_none_iff, List.find?_eq_none]
  intro field member
  simpa using present field member

section

variable (shape : Shape β) (layout : Layout) (depth level : Nat)

def entryText (entry : Entry β) : List Char :=
  layout.memberText entry.name (layout.chars level entry.data)

/-- A member that has not been seen is read by its own reader. -/
theorem named_member {text after : List Char} {isFirst : Bool} {seen : List String}
    {name : String} {change : β → β} {rest : List Char} (record : β) (steps : Nat)
    (next : nextMember isFirst text = .ok (some (name, ':' :: after))) (fresh : name ∉ seen)
    (read : shape.readerFor name depth after = .ok (change, rest)) :
    shape.named depth isFirst seen record (steps + 1) text =
      shape.named depth false (name :: seen) (change record) steps rest := by
  have unseen : seen.contains name = false := by
    simpa using fresh
  unfold readerFor at read
  rw [named, next]
  simp only [unseen, Bool.and_false, Bool.false_eq_true, if_false, colon_colon]
  cases found : shape.fields.find? fun field => field.name == name with
  | none =>
      rw [found] at read
      simp only [read]
  | some field =>
      rw [found] at read
      simp only [read]

theorem named_following {entries : List (Entry β)}
    (each : ∀ entry ∈ entries, Decodes (shape.readerFor entry.name) depth entry.data entry.change)
    (seen : List String) (distinct : (seen ++ entries.map Entry.name).Nodup)
    (required : ∀ field ∈ shape.fields, field.required = true →
      field.name ∈ seen ++ entries.map Entry.name)
    (record : β) {steps : Nat} (enough : entries.length < steps) (rest : List Char) :
    shape.named depth false seen record steps
        (layout.following (level + 1) (entries.map (entryText layout (level + 1))) ++
          (layout.lineStart level ++ '\x7d' :: rest)) =
      .ok (assembled record entries, rest) := by
  induction entries generalizing seen record steps with
  | nil =>
      obtain ⟨more, rfl⟩ := Nat.exists_eq_succ_of_ne_zero (Nat.ne_of_gt enough)
      have nothing : layout.following (level + 1)
          (([] : List (Entry β)).map (entryText layout (level + 1))) = [] := rfl
      have complete : shape.missing? seen = none := by
        refine missing?_eq_none fun field member isRequired => ?_
        simpa using required field member isRequired
      rw [nothing, List.nil_append, named, nextMember_close (layout.blankLine level)]
      simp only [complete, closeObject_close (layout.blankLine level)]
      rfl
  | cons entry others inductionHypothesis =>
      obtain ⟨more, rfl⟩ := Nat.exists_eq_succ_of_ne_zero (Nat.ne_of_gt (Nat.zero_lt_of_lt enough))
      have noNumber : continuesNumber '\x7d' = false := by decide
      have read := (each entry List.mem_cons_self).reads layout (level + 1) layout.afterColon _
        layout.blankColon
        (stops_following layout (level + 1) (others.map (entryText layout (level + 1))) noNumber
          level rest)
      have fresh : entry.name ∉ seen := fun known =>
        List.disjoint_of_nodup_append distinct known List.mem_cons_self
      have moved : (seen ++ (entry :: others).map Entry.name).Perm
          ((entry.name :: seen) ++ others.map Entry.name) := List.perm_middle
      have fewer : others.length < more := Nat.lt_of_succ_lt_succ enough
      have later := inductionHypothesis
        (fun other member => each other (List.mem_cons_of_mem _ member))
        (entry.name :: seen) (moved.nodup_iff.1 distinct)
        (fun field member isRequired => moved.mem_iff.1 (required field member isRequired))
        (entry.change record) fewer
      have next := nextMember_following (layout.blankLine (level + 1))
        (':' :: (layout.afterColon ++ (layout.chars (level + 1) entry.data ++
          (layout.following (level + 1) (others.map (entryText layout (level + 1))) ++
            (layout.lineStart level ++ '\x7d' :: rest))))) entry.name
      rw [List.map_cons, following_cons, entryText, memberText_append,
        shape.named_member depth record more next fresh read, later]
      rfl

theorem named_body {entries : List (Entry β)} (readable : shape.Readable depth entries)
    (record : β) (rest : List Char) :
    let text := layout.body level (entries.map (entryText layout (level + 1))) ++ '\x7d' :: rest
    shape.named depth true [] record (text.length + 1) text =
      .ok (assembled record entries, rest) := by
  obtain ⟨each, distinct, required⟩ := readable
  intro text
  cases entries with
  | nil =>
      have complete : shape.missing? [] = none := missing?_eq_none required
      have closed := nextMember_close blank_nil rest true
      have ended := closeObject_close blank_nil rest
      rw [List.nil_append] at closed ended
      have bare : text = '\x7d' :: rest := rfl
      rw [bare, named, closed]
      simp only [complete, ended]
      rfl
  | cons entry others =>
      have noNumber : continuesNumber '\x7d' = false := by decide
      have read := (each entry List.mem_cons_self).reads layout (level + 1) layout.afterColon _
        layout.blankColon
        (stops_following layout (level + 1) (others.map (entryText layout (level + 1))) noNumber
          level rest)
      have opened : text = layout.lineStart (level + 1) ++
          (literal entry.name ++ ':' :: (layout.afterColon ++
            (layout.chars (level + 1) entry.data ++
              (layout.following (level + 1) (others.map (entryText layout (level + 1))) ++
                (layout.lineStart level ++ '\x7d' :: rest))))) := by
        rw [← memberText_append, ← body_cons]
        rfl
      have next := nextMember_first (layout.blankLine (level + 1))
        (':' :: (layout.afterColon ++ (layout.chars (level + 1) entry.data ++
          (layout.following (level + 1) (others.map (entryText layout (level + 1))) ++
            (layout.lineStart level ++ '\x7d' :: rest))))) entry.name
      have enough : others.length < text.length := by
        have atLeast := length_following layout (level + 1)
          (others.map (entryText layout (level + 1)))
        rw [List.length_map] at atLeast
        rw [opened]
        simp only [List.length_append, List.length_cons]
        omega
      have later := shape.named_following layout depth level
        (fun other member => each other (List.mem_cons_of_mem _ member)) [entry.name]
        distinct required (entry.change record) enough rest
      rw [shape.named_member depth record text.length (opened ▸ next) List.not_mem_nil read, later]
      rfl

end

/-- A record is read back from the data of its members. -/
theorem decodes_record {shape : Shape β} {depth : Nat} (entries : List (Entry β))
    (readable : shape.Readable depth entries) (start : β) :
    Decodes (shape.decoder start) (depth + 1) (.object (entries.map Entry.member))
      (assembled start entries) := by
  refine ⟨fun layout level => opens_object layout level _, fun layout level => ?_⟩
  refine Reads.of_skipSpace (opens_object layout level _) (fun input => ?_) fun rest _ => ?_
  · unfold decoder
    rw [skipSpace_skipSpace]
  · have opened : ∀ input, shape.decoder start (depth + 1) ('\x7b' :: input) =
        shape.named depth true [] start (input.length + 1) input := fun _ => rfl
    rw [Layout.chars, Layout.memberTexts_eq, List.map_map, List.cons_append, List.append_assoc,
      List.singleton_append, opened]
    exact shape.named_body layout depth level readable start rest

end Shape

/-! ## Variants -/

section

variable {α : Type} {known : List (String × Payload α)} {name : String}

theorem variantName_literal {payload : Payload α}
    (isKnown : known.find? (fun variant => variant.1 == name) = some (name, payload))
    {gap : List Char} (blank : Blank gap) (rest : List Char) :
    Decoder.variantName known (gap ++ (literal name ++ rest)) = .ok (payload, rest) := by
  rw [Decoder.variantName, skipSpace_append blank ((opens_literal name).stops rest),
    literal_append]
  simp only [stringLiteral_escaped, isKnown]

/-- A variant without a record is its name. -/
theorem decodes_unit (depth : Nat) {value : α}
    (isKnown : known.find? (fun variant => variant.1 == name) = some (name, .unit value)) :
    Decodes (Decoder.variant known) depth (.string name) value := by
  refine ⟨fun _ _ => opens_literal name, fun layout level => ?_⟩
  refine Reads.of_skipSpace (opens_literal name) (fun input => ?_) fun rest _ => ?_
  · unfold Decoder.variant
    rw [skipSpace_skipSpace]
  · have found := variantName_literal isKnown blank_nil rest
    rw [List.nil_append, literal_append] at found
    unfold Decoder.variant
    rw [Layout.chars, skipSpace_of_opens (opens_literal name), literal_append]
    simp only [found]

/-- A variant with a record is an object of the record under its name. -/
theorem decodes_variant {depth : Nat} {read : Decoder α} {data : Json} {value : α}
    (isKnown : known.find? (fun variant => variant.1 == name) = some (name, .record read))
    (decodes : Decodes read depth data value) :
    Decodes (Decoder.variant known) (depth + 1) (.object [(name, data)]) value := by
  refine ⟨fun layout level => opens_object layout level _, fun layout level => ?_⟩
  refine Reads.of_skipSpace (opens_object layout level _) (fun input => ?_) fun rest _ => ?_
  · unfold Decoder.variant
    rw [skipSpace_skipSpace]
  · have noNumber : continuesNumber '\x7d' = false := by decide
    have inner := decodes.reads layout (level + 1) layout.afterColon
      (layout.lineStart level ++ '\x7d' :: rest) layout.blankColon
      (stops_append (layout.blankLine level) noNumber rest)
    have named := variantName_literal isKnown (layout.blankLine (level + 1))
      (':' :: (layout.afterColon ++ (layout.chars (level + 1) data ++
        (layout.lineStart level ++ '\x7d' :: rest))))
    have opened : layout.chars level (.object [(name, data)]) ++ rest =
        '\x7b' :: (layout.lineStart (level + 1) ++
          (literal name ++ ':' :: (layout.afterColon ++ (layout.chars (level + 1) data ++
            (layout.lineStart level ++ '\x7d' :: rest))))) := by
      have noOthers : layout.following (level + 1) [] = [] := rfl
      have body := body_cons layout level
        (layout.memberText name (layout.chars (level + 1) data)) [] '\x7d' rest
      rw [memberText_append, noOthers, List.nil_append] at body
      rw [Layout.chars, Layout.memberTexts, Layout.memberTexts, List.cons_append,
        List.append_assoc, List.singleton_append, body]
    have closed := skipSpace_mark (layout.blankLine level) rest
      (show isSpace '\x7d' = false by decide)
    unfold Decoder.variant
    rw [skipSpace_of_opens (opens_object layout level _), opened]
    simp only [named, colon_colon, Decoder.payload, inner, closed]

end

end LibraryScout.Json
