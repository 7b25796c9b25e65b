import LibraryScout.Proofs.Imports.Specifiers

/-!
Contract: what the modules of a JavaScript source are made of.

Owns: that a specifier is a part of the source and holds no quote, for calls and for clauses alike.

Does not own: which calls and clauses are found.
-/

namespace LibraryScout.Imports.JavaScript

open LibraryScout.Source LibraryScout.Text

/-- A specifier without quotes stands in a text, and what is left comes behind it. -/
structure StandsIn (text specifier after : List Char) : Prop where
  inside : specifier <:+: text
  noQuote : ∀ character ∈ specifier, isQuote character = false
  leaves : after <:+ text

theorem InQuotes.standsIn {inClass : Char → Bool} {text specifier after : List Char}
    (noQuote : ∀ {character}, isQuote character = true → inClass character = false)
    (quoted : InQuotes inClass text specifier after) : StandsIn text specifier after := by
  obtain ⟨opening, closing, rfl, -, -, -, allowed⟩ := quoted
  refine ⟨⟨[opening], closing :: after, by simp⟩, fun character member => ?_,
    ⟨opening :: (specifier ++ [closing]), by simp⟩⟩
  rw [Bool.eq_false_iff]
  intro isIt
  have inClass := allowed character member
  rw [noQuote isIt] at inClass
  cases inClass

theorem StandsIn.append {text specifier after : List Char} (stands : StandsIn text specifier after)
    (before : List Char) : StandsIn (before ++ text) specifier after :=
  ⟨stands.inside.trans (List.suffix_append before text).isInfix, stands.noQuote,
    stands.leaves.trans (List.suffix_append before text)⟩

theorem CallStart.standsIn {text specifier after : List Char}
    (call : CallStart text specifier after) : StandsIn text specifier after := by
  obtain ⟨argument, rfl, quoted⟩ := call
  have stands := (quoted.standsIn not_isRequiredChar_of_isQuote).append "require(".toList
  exact ⟨stands.inside, stands.noQuote, (List.suffix_cons ')' after).trans stands.leaves⟩

theorem ClauseStart.standsIn {text specifier after : List Char}
    (clause : ClauseStart text specifier after) : StandsIn text specifier after := by
  obtain ⟨space, bindings, gap, source, rfl, -, -, -, -, blanks, name, rfl, -, quoted⟩ := clause
  have stands := quoted.standsIn not_isSpecifierChar_of_isQuote
  exact (((((stands.append blanks).append _).append gap).append bindings).append space).append _

/-- A specifier that a scan finds stands in the text. -/
theorem standsIn_of_mem_occurrences {form : List Char → Option (List Char × List Char)}
    (stands : ∀ {text specifier after}, form text = some (specifier, after) →
      StandsIn text specifier after)
    {text specifier : List Char}
    (member : specifier ∈ occurrences (fun _ rest => form rest) true text) :
    ∃ after, StandsIn text specifier after := by
  obtain ⟨here, after, ends, matched⟩ := exists_form_of_mem_occurrences
    (Pattern.reads_form fun found => (stands found).leaves) member
  obtain ⟨before, rfl⟩ := ends
  exact ⟨after, (stands matched).append before⟩

/-- Identifiers of a source are external specifiers without quotes, and parts of the source. -/
theorem form_of_mem_modules {text identifier : String}
    (member : identifier ∈ (modules text).identifiers) :
    isExternal identifier.toList = true ∧
      (∀ character ∈ identifier.toList, isQuote character = false) ∧
      identifier.toList <:+: text.toList := by
  rw [modules, Context.mem_unique] at member
  obtain ⟨specifier, kept, rfl⟩ := List.mem_map.1 member.1
  obtain ⟨found, external⟩ := List.mem_filter.1 kept
  have standing : ∃ after, StandsIn text.toList specifier after := by
    rcases List.mem_append.1 found with called | imported
    · exact standsIn_of_mem_occurrences (fun read => (call?_eq_some_iff.1 read).standsIn) called
    · exact standsIn_of_mem_occurrences (fun read => (clause?_eq_some_iff.1 read).standsIn) imported
  obtain ⟨after, stands⟩ := standing
  rw [String.toList_ofList]
  exact ⟨external, stands.noQuote, stands.inside⟩

end LibraryScout.Imports.JavaScript
