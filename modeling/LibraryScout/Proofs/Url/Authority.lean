import LibraryScout.Proofs.Host.Characters
import LibraryScout.Proofs.Url.Path

/-!
Contract: URLs of the web that are written as scheme, host and port.

Owns:
- the form of a host in a URL, and that it is read as a whole up to the colon after it;
- that such a URL, with a plain path after it, is read like the URL alone, up to the path.

Does not own: users and passwords, which stand before the host.
-/

namespace LibraryScout.Url

open LibraryScout.Host

/-! ## Hosts -/

/-- The form of a host in a URL of the web: a name or an address without characters that separate
the parts of a URL, or an address between brackets. -/
inductive IsHostText : List Char → Prop where
  | bare {text : List Char} (nonempty : text ≠ [])
      (allowed : ∀ character ∈ text, Domain.isDenied character = false) : IsHostText text
  | bracketed {inner : List Char}
      (allowed : ∀ character ∈ inner, character = ':' ∨ IsNumeral character) :
      IsHostText ('[' :: (inner ++ [']']))

theorem ipv4_text_ne_nil (value : Nat) : (Ipv4.text value).toList ≠ [] := by
  rw [Ipv4.text, Text.joined, String.toList_intercalate]
  simp [List.intercalate_cons_cons]

theorem ipv6_of_bracketed {written : List Char} {host : Host}
    (read : bracketed written = .ok host) : ∃ pieces, host = .ipv6 pieces := by
  unfold bracketed at read
  split at read
  · split at read
    · cases read
      exact ⟨_, rfl⟩
    · cases read
  · cases read

/-- Whatever is read as a host has this form. -/
theorem isHostText_of_webHost {written : List Char} {host : Host}
    (read : webHost written = .ok host) : IsHostText host.text.toList := by
  unfold webHost at read
  by_cases brackets : written.head? = some '['
  · rw [if_pos brackets] at read
    obtain ⟨pieces, rfl⟩ := ipv6_of_bracketed read
    have bracketed := IsHostText.bracketed
      fun character (member : character ∈ (Ipv6.text pieces).toList) => Ipv6.mem_text member
    simpa [Host.text] using bracketed
  · rw [if_neg brackets] at read
    cases decoded : String.fromUTF8? (ByteArray.mk (Percent.decode written).toArray) with
    | none => simp [decoded] at read
    | some text =>
        cases ascii : Domain.toAscii? text.toList with
        | none => simp [decoded, ascii] at read
        | some name =>
            cases name with
            | nil => simp [decoded, ascii] at read
            | cons first later =>
                simp only [decoded, ascii] at read
                split at read
                · split at read
                  · cases read
                    exact .bare (ipv4_text_ne_nil _) (Ipv4.not_isDenied_text _)
                  · cases read
                · cases read
                  have allowed := Domain.not_isDenied_of_toAscii? ascii
                  exact .bare (by simp [Host.text]) (by simpa [Host.text] using allowed)

/-- A character that can stand in a host: none that ends it, and no white space or control. -/
def isHostCharacter (character : Char) : Bool :=
  32 < character.toNat && !"/?#\\@".toList.contains character

theorem isHostCharacter_of_not_isDenied {character : Char}
    (allowed : Domain.isDenied character = false) : isHostCharacter character = true := by
  have noSeparator : character ∉ "/?#\\@".toList :=
    Domain.not_mem_of_not_isDenied (by decide) allowed
  have visible : 32 < character.toNat := by
    simp only [Domain.isDenied, Bool.or_eq_false_iff, decide_eq_false_iff_not] at allowed
    exact Nat.not_le.1 allowed.1.1
  simpa [isHostCharacter, visible] using noSeparator

theorem IsHostText.isHostCharacter {text : List Char} (isHost : IsHostText text) :
    ∀ character ∈ text, isHostCharacter character = true := by
  cases isHost with
  | bare nonempty allowed =>
      exact fun character member => isHostCharacter_of_not_isDenied (allowed character member)
  | bracketed allowed =>
      intro character member
      simp only [List.mem_cons, List.mem_append, List.not_mem_nil, or_false] at member
      rcases member with rfl | inside | rfl
      · rfl
      · rcases allowed character inside with rfl | numeral
        · rfl
        · exact isHostCharacter_of_not_isDenied (isDenied_of_isNumeral numeral)
      · rfl

theorem IsHostText.ne_nil {text : List Char} (isHost : IsHostText text) : text ≠ [] := by
  cases isHost with
  | bare nonempty allowed => exact nonempty
  | bracketed allowed => exact List.cons_ne_nil _ _

/-! ## Authorities -/

theorem splitHost_cons {character : Char} (inBrackets : Bool)
    (allowed : character ∉ "/?#\\[]".toList) (noPort : character = ':' → inBrackets = true)
    (rest : List Char) :
    splitHost true inBrackets (character :: rest) =
      (character :: (splitHost true inBrackets rest).1, (splitHost true inBrackets rest).2) := by
  have apart : character ≠ '/' ∧ character ≠ '?' ∧ character ≠ '#' ∧ character ≠ '\\' ∧
      character ≠ '[' ∧ character ≠ ']' := by
    simpa using allowed
  have inside : (character = ':' && !inBrackets) = false := by
    by_cases colon : character = ':'
    · simp [noPort colon]
    · simp [colon]
  simp [splitHost, apart, inside]

theorem splitHost_of_not_isDenied {name : List Char}
    (allowed : ∀ character ∈ name, Domain.isDenied character = false) (rest : List Char) :
    splitHost true false (name ++ ':' :: rest) = (name, ':' :: rest) := by
  induction name with
  | nil => rfl
  | cons character later inductionHypothesis =>
      have laterSplit := inductionHypothesis fun other member =>
        allowed other (List.mem_cons_of_mem character member)
      have noMark : character ∉ ":/?#\\[]".toList :=
        Domain.not_mem_of_not_isDenied (by decide) (allowed character List.mem_cons_self)
      have goesOn : character ∉ "/?#\\[]".toList := fun member =>
        noMark (List.mem_cons_of_mem ':' member)
      have noColon : character ≠ ':' := fun colon => noMark (colon ▸ List.mem_cons_self)
      rw [List.cons_append, splitHost_cons false goesOn fun colon => absurd colon noColon,
        laterSplit]

/-- Within brackets everything up to the closing one belongs to the host. -/
theorem splitHost_inside {inner : List Char}
    (allowed : ∀ character ∈ inner, character = ':' ∨ IsNumeral character) (rest : List Char) :
    splitHost true true (inner ++ ']' :: rest) =
      (inner ++ ']' :: (splitHost true false rest).1, (splitHost true false rest).2) := by
  induction inner with
  | nil => rfl
  | cons character later inductionHypothesis =>
      have laterSplit := inductionHypothesis fun other member =>
        allowed other (List.mem_cons_of_mem character member)
      have noNumeral : ∀ digit < 16, Nat.digitChar digit ∉ "/?#\\[]".toList := by
        decide
      have noMark : character ∉ "/?#\\[]".toList := by
        rcases allowed character List.mem_cons_self with rfl | ⟨digit, small, rfl⟩
        · decide
        · exact noNumeral digit small
      rw [List.cons_append, splitHost_cons true noMark (fun _ => rfl), laterSplit]
      rfl

/-- A host is read up to the colon after it. -/
theorem IsHostText.splitHost {text : List Char} (isHost : IsHostText text) (rest : List Char) :
    Url.splitHost true false (text ++ ':' :: rest) = (text, ':' :: rest) := by
  cases isHost with
  | bare nonempty allowed => exact splitHost_of_not_isDenied allowed rest
  | bracketed allowed =>
      have inside := splitHost_inside allowed (':' :: rest)
      have opened : ∀ later, Url.splitHost true false ('[' :: later) =
          ('[' :: (Url.splitHost true true later).1, (Url.splitHost true true later).2) :=
        fun _ => rfl
      rw [List.cons_append, List.append_assoc, List.singleton_append, opened, inside]
      rfl

theorem userInfo_of_not_mem {text : List Char} (noSign : '@' ∉ text) (web : Bool) :
    userInfo web text = ⟨false, "", none, text⟩ := by
  have noUser : Text.beforeLast? '@' (splitAuthority web text).1 = none := by
    refine Option.eq_none_iff_forall_ne_some.2 fun before found => noSign ?_
    obtain ⟨after, split, _⟩ := Text.beforeLast?_eq_some_iff.1 found
    refine (List.takeWhile_prefix _).subset (?_ : '@' ∈ (splitAuthority web text).1)
    rw [split]
    simp
  unfold userInfo
  simp only [noUser]

/-- A port is read up to the slash after it, as if nothing came after it. -/
theorem readPort_append {digits : List Char}
    (allDigits : ∀ digit ∈ digits, digit.isDigit = true) {rest : List Char}
    (rooted : rest.head? = some '/') {port : Nat} {some : Bool} {read : Option Nat × List Char}
    (alone : readPort port some digits = .ok read) :
    readPort port some (digits ++ rest) = .ok (read.1, rest) := by
  obtain ⟨later, rfl⟩ := List.head?_eq_some_iff.1 rooted
  induction digits generalizing port some with
  | nil =>
      obtain rfl := Except.ok.inj alone
      rfl
  | cons digit others inductionHypothesis =>
      have isDigit := allDigits digit List.mem_cons_self
      rw [readPort, if_pos isDigit] at alone
      rw [List.cons_append, readPort, if_pos isDigit]
      dsimp only at alone ⊢
      split at alone
      · cases alone
      · rw [if_neg ‹_›]
        exact inductionHypothesis (fun other member =>
          allDigits other (List.mem_cons_of_mem digit member)) alone

section

variable {scheme : String} (web : isWeb scheme = true) {host : List Char}
  (isHost : IsHostText host)

include web isHost

/-- Reading a host with a port, when there is no user. -/
theorem afterSlashes_of_hostText {rest : List Char} (noSign : '@' ∉ host ++ ':' :: rest) :
    afterSlashes scheme (host ++ ':' :: rest) = (do
      let read ← webHost host
      let (port?, after) ← readPort 0 false rest
      let (path, tail) := splitPath after
      let (query?, fragment?) := queryAndFragment true tail
      return ⟨scheme, "", none, some read,
        port?.filter (fun port => defaultPort? scheme ≠ some port), pathText true path, query?,
        fragment?⟩) := by
  have nonempty := isHost.ne_nil
  unfold afterSlashes
  simp only [web, userInfo_of_not_mem noSign, isHost.splitHost, nonempty, decide_false,
    Bool.and_false, Bool.false_and, Bool.false_eq_true, if_false, if_true, Bool.not_true]

/-- Scheme, host and port give the URL; a plain path after them is its path. -/
theorem afterSlashes_append {digits : List Char}
    (allDigits : ∀ digit ∈ digits, digit.isDigit = true) {url : Url}
    (alone : afterSlashes scheme (host ++ ':' :: digits) = .ok url) {path : List Char}
    (isPath : IsPlainPath path) :
    afterSlashes scheme (host ++ ':' :: (digits ++ path)) =
      .ok { url with path := String.ofList path, query? := none, fragment? := none } := by
  have hostNoSign : '@' ∉ host := fun member =>
    absurd (isHost.isHostCharacter _ member) (by decide)
  have digitsNoSign : '@' ∉ digits := fun member => absurd (allDigits _ member) (by decide)
  have pathNoSign : '@' ∉ path := fun member => absurd (isPath.plain _ member) (by decide)
  rw [afterSlashes_of_hostText web isHost (by simp [hostNoSign, digitsNoSign])] at alone
  rw [afterSlashes_of_hostText web isHost (by simp [hostNoSign, digitsNoSign, pathNoSign])]
  -- host and port are read from the same text in both, and reading them alone succeeds
  cases named : webHost host with
  | error fault => cases named ▸ alone
  | ok read =>
      cases numbered : readPort 0 false digits with
      | error fault => cases named ▸ numbered ▸ alone
      | ok port =>
          rw [named, numbered] at alone
          rw [readPort_append allDigits isPath.rooted numbered]
          obtain rfl := Except.ok.inj alone
          simp only [bind, Except.bind, splitPath_of_plain isPath.plain, pathText_of_plain isPath]
          rfl

end

/-! ## Whole URLs -/

theorem exists_of_bind_eq_ok {ε α β : Type} {first : Except ε α} {next : α → Except ε β}
    {result : β} (done : first >>= next = .ok result) :
    ∃ value, first = .ok value ∧ next value = .ok result := by
  cases first with
  | error fault => cases done
  | ok value => exact ⟨value, rfl, done⟩

/-- What a URL that is read after two slashes keeps of its text: the scheme, a host and a port. -/
structure ReadAfterSlashes (scheme : String) (url : Url) : Prop where
  sameScheme : url.scheme = scheme
  host : ∃ host, url.host? = some host ∧
    ∃ written, (if isWeb scheme then webHost written else otherHost written) = .ok host
  /-- The port that the scheme has by itself is dropped. -/
  port : ∃ port?, url.port? = port?.filter (fun port => defaultPort? scheme ≠ some port) ∧
    (port? = none ∨ ∃ digits rest, readPort 0 false digits = .ok (port?, rest))

theorem readAfterSlashes {scheme : String} {text : List Char} {url : Url}
    (read : afterSlashes scheme text = .ok url) : ReadAfterSlashes scheme url := by
  unfold afterSlashes at read
  dsimp only at read
  split at read
  · cases read
  · -- a host of the web and another one are read in the same way from here on
    split at read
    all_goals
      rename_i web
      obtain ⟨host, named, read⟩ := exists_of_bind_eq_ok read
      have hostRead : ∃ written, (if isWeb scheme then webHost written
          else otherHost written) = .ok host := ⟨_, by simpa [web] using named⟩
      split at read
      · cases read
      · split at read
        · obtain ⟨port, numbered, read⟩ := exists_of_bind_eq_ok read
          obtain rfl := Except.ok.inj read
          exact ⟨rfl, ⟨host, rfl, hostRead⟩, ⟨_, rfl, .inr ⟨_, _, numbered⟩⟩⟩
        · obtain ⟨port, nothing, read⟩ := exists_of_bind_eq_ok read
          obtain rfl := Except.ok.inj read
          obtain rfl := Except.ok.inj nothing
          exact ⟨rfl, ⟨host, rfl, hostRead⟩, ⟨none, rfl, .inl rfl⟩⟩

/-- What is read after a host: it keeps scheme and host, whatever comes. -/
theorem host_of_afterSlashes {scheme : String} {text : List Char} {url : Url}
    (read : afterSlashes scheme text = .ok url) :
    url.scheme = scheme ∧ (isWeb scheme = true →
      ∃ written host, webHost written = .ok host ∧ url.host? = some host) := by
  have kept := readAfterSlashes read
  obtain ⟨host, hosted, written, named⟩ := kept.host
  refine ⟨kept.sameScheme, fun web => ⟨written, host, ?_, hosted⟩⟩
  rwa [if_pos web] at named

theorem scheme_of_ofFile {text : List Char} {url : Url} (read : ofFile text = .ok url) :
    url.scheme = "file" := by
  unfold ofFile at read
  dsimp only at read
  split at read
  · split at read
    · obtain rfl := Except.ok.inj read
      rfl
    · split at read
      · obtain rfl := Except.ok.inj read
        rfl
      · obtain ⟨host, _, read⟩ := exists_of_bind_eq_ok read
        split at read
        all_goals
          obtain rfl := Except.ok.inj read
          rfl
  · obtain rfl := Except.ok.inj read
    rfl

theorem scheme_of_ofOther {scheme : String} {text : List Char} {url : Url}
    (read : ofOther scheme text = .ok url) : url.scheme = scheme := by
  unfold ofOther at read
  split at read
  · exact (host_of_afterSlashes read).1
  · obtain rfl := Except.ok.inj read
    rfl

/-- A URL of the web is read after its two slashes. -/
theorem readAfterSlashes_of_parse {text : String} {url : Url} (read : parse text = .ok url)
    (web : isWeb url.scheme = true) : ReadAfterSlashes url.scheme url := by
  unfold parse at read
  split at read
  · cases read
  · split at read
    · rw [scheme_of_ofFile read] at web
      exact absurd web (by decide)
    · split at read
      · have kept := readAfterSlashes read
        exact kept.sameScheme.symm ▸ kept
      · rw [scheme_of_ofOther read] at web
        exact absurd web ‹_›

/-- A URL of the web has a web host. -/
theorem webHost_of_parse {text : String} {url : Url} (read : parse text = .ok url)
    (web : isWeb url.scheme = true) :
    ∃ written host, webHost written = .ok host ∧ url.host? = some host := by
  obtain ⟨host, hosted, written, named⟩ := (readAfterSlashes_of_parse read web).host
  rw [if_pos web] at named
  exact ⟨written, host, named, hosted⟩

/-! ## Scheme, host and port -/

/-- In a text without white space and controls everything counts. -/
theorem significant_of_visible {text : List Char}
    (visible : ∀ character ∈ text, 32 < character.toNat) : significant text = text := by
  have noEdge : ∀ {part : List Char}, (∀ character ∈ part, 32 < character.toNat) →
      (part.dropWhile fun character => decide (character.toNat ≤ 32)) = part := by
    intro part partVisible
    refine Text.dropWhile_of_stopsBefore fun character first => ?_
    exact decide_eq_false (Nat.not_le.2 (partVisible character (List.mem_of_mem_head? first)))
  have noBreak : ∀ character ∈ text, character ≠ '\t' ∧ character ≠ '\n' ∧ character ≠ '\r' := by
    intro character member
    have large := visible character member
    refine ⟨?_, ?_, ?_⟩ <;> (rintro rfl; exact absurd large (by decide))
  unfold significant
  dsimp only
  rw [noEdge visible, noEdge (by simpa using visible), List.reverse_reverse]
  exact List.filter_eq_self.2 fun character member => decide_eq_true (noBreak character member)

/-- The schemes of the service. -/
def IsHttp (scheme : String) : Prop :=
  scheme = "http" ∨ scheme = "https"

theorem IsHttp.isWeb {scheme : String} (http : IsHttp scheme) : Url.isWeb scheme = true := by
  rcases http with rfl | rfl <;> decide

theorem IsHostText.visible {text : List Char} (isHost : IsHostText text) :
    ∀ character ∈ text, 32 < character.toNat := by
  intro character member
  have stands := isHost.isHostCharacter character member
  simp only [Url.isHostCharacter, Bool.and_eq_true, decide_eq_true_eq] at stands
  exact stands.1

/-- What stands after the two slashes of a URL over HTTP is read as such. -/
theorem parse_of_http {scheme : String} (http : IsHttp scheme) {host rest : List Char}
    (isHost : IsHostText host) (visible : ∀ character ∈ rest, 32 < character.toNat) :
    parse (scheme ++ "://" ++ String.ofList (host ++ ':' :: rest)) =
      afterSlashes scheme (host ++ ':' :: rest) := by
  have schemePlain : scheme.toList.all isPlain = true := by
    rcases http with rfl | rfl <;> decide
  have counts : significant (scheme ++ "://" ++ String.ofList (host ++ ':' :: rest)).toList =
      scheme.toList ++ ':' :: '/' :: '/' :: (host ++ ':' :: rest) := by
    have written : (scheme ++ "://" ++ String.ofList (host ++ ':' :: rest)).toList =
        scheme.toList ++ ':' :: '/' :: '/' :: (host ++ ':' :: rest) := by
      simp
    rw [written]
    refine significant_of_visible fun character member => ?_
    simp only [List.mem_append, List.mem_cons] at member
    rcases member with inScheme | rfl | rfl | rfl | inHost | rfl | inRest
    · exact visible_of_isPlain (List.all_eq_true.1 schemePlain character inScheme)
    · decide
    · decide
    · decide
    · exact isHost.visible character inHost
    · decide
    · exact visible character inRest
  have schemeRead : scheme? (scheme.toList ++ ':' :: '/' :: '/' :: (host ++ ':' :: rest)) =
      some (scheme, '/' :: '/' :: (host ++ ':' :: rest)) := by
    rcases http with rfl | rfl <;> rfl
  have noSlash : (('/' :: '/' :: (host ++ ':' :: rest)).dropWhile fun character =>
      character = '/' || character = '\\') = host ++ ':' :: rest := by
    rw [List.dropWhile_cons_of_pos rfl, List.dropWhile_cons_of_pos rfl]
    refine Text.dropWhile_of_stopsBefore fun character first => ?_
    have inHost : character ∈ host := by
      obtain ⟨front, later, rfl⟩ := List.exists_cons_of_ne_nil isHost.ne_nil
      obtain rfl := Option.some.inj first
      exact List.mem_cons_self
    have stands := isHost.isHostCharacter character inHost
    refine Bool.eq_false_iff.2 fun slash => ?_
    rcases (by simpa using slash : character = '/' ∨ character = '\\') with rfl | rfl
    · exact absurd stands (by decide)
    · exact absurd stands (by decide)
  have noFile : scheme ≠ "file" := by
    rcases http with rfl | rfl <;> decide
  unfold parse
  rw [counts, schemeRead]
  simp only [noFile, http.isWeb, if_false, if_true, noSlash]

end LibraryScout.Url
