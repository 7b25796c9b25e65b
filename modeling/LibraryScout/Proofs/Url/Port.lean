import LibraryScout.Proofs.Url.Authority

/-!
Contract: ports in URLs.

Owns:
- that a port in decimal digits is read as itself;
- that a port with which a URL of the web is written is in range, and is not the one that its
  scheme has by itself;
- what is read from scheme, host and port alone, for hosts that are read back from their text.

Does not own: which hosts are read back from their text.
-/

namespace LibraryScout.Url

/-! ## Digits -/

theorem readPort_digitChar {port digit : Nat} (isDigit : digit < 10)
    (inRange : port * 10 + digit ≤ 65535) (some : Bool) (rest : List Char) :
    readPort port some (digit.digitChar :: rest) = readPort (port * 10 + digit) true rest := by
  have all : ∀ digit < 10, digit.digitChar.isDigit = true ∧
      digit.digitChar.toNat - '0'.toNat = digit := by
    decide
  obtain ⟨digitRead, value⟩ := all digit isDigit
  rw [readPort, if_pos digitRead]
  simp only [value, Nat.not_lt.2 inRange, if_false]

/-- The digits of a number in range are read as that number, whatever comes after them. -/
theorem readPort_toDigits {port : Nat} (inRange : port ≤ 65535) (rest : List Char) :
    readPort 0 false (Nat.toDigits 10 port ++ rest) = readPort port true rest := by
  induction port using Nat.strongRecOn generalizing rest with
  | ind port inductionHypothesis =>
      by_cases single : port < 10
      · have alone : readPort 0 false (port.digitChar :: rest) =
            readPort (0 * 10 + port) true rest :=
          readPort_digitChar single (by omega) false rest
        rw [Nat.zero_mul, Nat.zero_add] at alone
        rw [Nat.toDigits_of_lt_base single, List.singleton_append, alone]
      · have front := inductionHypothesis (port / 10) (by omega) (by omega)
          ((port % 10).digitChar :: rest)
        have together : port / 10 * 10 + port % 10 = port := Nat.div_add_mod' port 10
        rw [Nat.toDigits_of_base_le (by decide) (by omega), List.append_assoc,
          List.singleton_append, front,
          readPort_digitChar (Nat.mod_lt _ (by decide)) (by omega), together]

/-! ## The port of a URL -/

/-- What is read as a port is in range, if what was read before it is. -/
theorem le_of_readPort {start : Nat} {digits : Bool} {text rest : List Char} {port : Nat}
    (before : start ≤ 65535) (read : readPort start digits text = .ok (some port, rest)) :
    port ≤ 65535 := by
  induction text generalizing start digits with
  | nil =>
      obtain ⟨-, rfl⟩ : digits = true ∧ start = port := by
        have pair := Prod.mk.inj (Except.ok.inj read)
        simpa using pair.1
      exact before
  | cons character later inductionHypothesis =>
      rw [readPort] at read
      split at read
      · dsimp only at read
        split at read
        · cases read
        · exact inductionHypothesis (Nat.not_lt.1 ‹_›) read
      · split at read
        · obtain ⟨-, rfl⟩ : digits = true ∧ start = port := by
            have pair := Prod.mk.inj (Except.ok.inj read)
            simpa using pair.1
          exact before
        · cases read

/-- A port with which a URL of the web is written is in range, and its scheme does not have it by
itself. -/
theorem port_of_parse {text : String} {url : Url} (read : parse text = .ok url)
    (web : isWeb url.scheme = true) {port : Nat} (named : url.port? = some port) :
    port ≤ 65535 ∧ defaultPort? url.scheme ≠ some port := by
  obtain ⟨written?, filtered, numbered⟩ := (readAfterSlashes_of_parse read web).port
  obtain ⟨written, other⟩ := Option.filter_eq_some_iff.1 (filtered.symm.trans named)
  refine ⟨?_, of_decide_eq_true other⟩
  rcases numbered with nothing | ⟨digits, rest, numbered⟩
  · cases nothing.symm.trans written
  · rw [written] at numbered
    exact le_of_readPort (Nat.zero_le _) numbered

/-! ## Scheme, host and port alone -/

/-- A URL with nothing but scheme, host and port. -/
def bare (scheme : String) (host : Host) (port? : Option Nat) : Url :=
  ⟨scheme, "", none, some host, port?, "/", none, none⟩

/-- Scheme, host and port are read back, up to a port that the scheme has by itself. -/
theorem parse_written {scheme : String} (http : IsHttp scheme) {host : Host}
    (isHost : IsHostText host.text.toList) (readsBack : webHost host.text.toList = .ok host)
    {port : Nat} (inRange : port ≤ 65535) :
    parse (scheme ++ "://" ++ host.text ++ ":" ++ toString port) =
      .ok (bare scheme host
        ((some port).filter fun port => defaultPort? scheme ≠ some port)) := by
  have allDigits : ∀ digit ∈ Nat.toDigits 10 port, digit.isDigit = true :=
    fun digit member => Nat.isDigit_of_mem_toDigits (by decide) (by decide) member
  have visible : ∀ digit ∈ Nat.toDigits 10 port, 32 < digit.toNat := fun digit member =>
    Nat.lt_of_lt_of_le (by decide) (Text.toNat_of_isDigit (allDigits digit member)).1
  have noSign : '@' ∉ host.text.toList ++ ':' :: Nat.toDigits 10 port := by
    intro member
    rcases List.mem_append.1 member with inHost | inPort
    · exact absurd (isHost.isHostCharacter _ inHost) (by decide)
    · rcases List.mem_cons.1 inPort with colon | digit
      · exact absurd colon (by decide)
      · exact absurd (allDigits _ digit) (by decide)
  have written : scheme ++ "://" ++ host.text ++ ":" ++ toString port =
      scheme ++ "://" ++ String.ofList (host.text.toList ++ ':' :: Nat.toDigits 10 port) := by
    rw [Nat.toString_eq_ofList_toDigits, ← String.toList_inj]
    simp
  have numbered := readPort_toDigits inRange []
  rw [List.append_nil] at numbered
  rw [written, parse_of_http http isHost visible,
    afterSlashes_of_hostText http.isWeb isHost noSign, readsBack, numbered]
  rfl

end LibraryScout.Url
