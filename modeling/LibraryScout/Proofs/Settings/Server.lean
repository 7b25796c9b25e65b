import LibraryScout.Proofs.Url.Authority
import LibraryScout.Settings.Basic

/-!
Contract: servers in normal form, and the URLs that paths after them make.

Owns:
- the parts of a server's URL in normal form, which is one that is its own normal form;
- that a plain path after a server in normal form makes a URL of the same scheme, host and port.

Does not own: that normalising gives a normal form.
-/

namespace LibraryScout.Settings

open LibraryScout.Url

/-! ## Parts -/

/-- A server's URL of scheme, host and port, by its parts. -/
structure IsServer (scheme : String) (host digits : List Char) (server : String) : Prop where
  http : IsHttp scheme
  isHost : IsHostText host
  someDigits : digits ≠ []
  allDigits : ∀ digit ∈ digits, digit.isDigit = true
  written : server = scheme ++ "://" ++ String.ofList (host ++ ':' :: digits)

/-- A text has the form of a server's URL. -/
def HasServerForm (server : String) : Prop :=
  ∃ scheme host digits, IsServer scheme host digits server

/-- What a URL must have to be one of a server, and the text of such a one. -/
theorem serverOf_eq_ok {url : Url} {server : String} (served : serverOf url = .ok server) :
    IsHttp url.scheme ∧ ∃ host port, url.host? = some host ∧ url.portOrDefault? = some port ∧
      server = url.scheme ++ "://" ++ host.text ++ ":" ++ toString port := by
  unfold serverOf at served
  split at served
  · cases served
  · rename_i http
    refine ⟨Decidable.or_iff_not_imp_left.2 fun notHttp => ?_, ?_⟩
    · exact Decidable.byContradiction fun notHttps => http ⟨notHttp, notHttps⟩
    · split at served
      · cases served
      · cases served
      · rename_i host port hosted ported
        exact ⟨host, port, hosted, ported, (Except.ok.inj served).symm⟩

/-- A text that can be normalised is read as a URL, which has a server. -/
theorem normalizeServer_eq_ok {text server : String}
    (normalizes : normalizeServer text = .ok server) :
    ∃ url, Url.parse (Text.trimmed text) = .ok url ∧ serverOf url = .ok server := by
  unfold normalizeServer at normalizes
  cases read : Url.parse (Text.trimmed text) with
  | error fault => simp [read] at normalizes
  | ok url =>
      simp only [read] at normalizes
      cases served : serverOf url with
      | error fault => simp [served] at normalizes
      | ok written =>
          simp only [served] at normalizes
          obtain rfl := Except.ok.inj normalizes
          exact ⟨url, rfl, served⟩

theorem exists_server_of_normalizeServer {text : String} {fault : Fault}
    (fails : normalizeServer text = .error fault) : ∃ cause, fault = .server text cause := by
  unfold normalizeServer at fails
  split at fails
  next cause _ => exact ⟨.notUrl cause, (Except.error.inj fails).symm⟩
  next url _ =>
    split at fails
    next cause _ => exact ⟨cause, (Except.error.inj fails).symm⟩
    next server _ => cases fails

/-- Scheme, host and port make such a server. -/
theorem isServer_written {scheme : String} (http : IsHttp scheme) {host : Host}
    (isHost : IsHostText host.text.toList) (port : Nat) :
    IsServer scheme host.text.toList (toString port).toList
      (scheme ++ "://" ++ host.text ++ ":" ++ toString port) := by
  refine ⟨http, isHost, ?_, ?_, ?_⟩
  · rw [Nat.toString_eq_ofList_toDigits, String.toList_ofList]
    exact Nat.toDigits_ne_nil
  · intro digit member
    rw [Nat.toString_eq_ofList_toDigits, String.toList_ofList] at member
    exact Nat.isDigit_of_mem_toDigits (by decide) (by decide) member
  · rw [← String.toList_inj]
    simp

/-- Whatever comes out of normalising has such a form. -/
theorem hasServerForm_of_normalizeServer {text server : String}
    (normalized : normalizeServer text = .ok server) : HasServerForm server := by
  obtain ⟨url, read, served⟩ := normalizeServer_eq_ok normalized
  obtain ⟨http, host, port, hosted, _, rfl⟩ := serverOf_eq_ok served
  obtain ⟨_, found, named, foundHost⟩ := webHost_of_parse read http.isWeb
  obtain rfl := Option.some.inj (hosted.symm.trans foundHost)
  exact ⟨_, _, _, isServer_written http (isHostText_of_webHost named) port⟩

namespace IsServer

variable {scheme server : String} {host digits : List Char}
  (parts : IsServer scheme host digits server)

include parts

theorem head?_toList : server.toList.head? = some 'h' := by
  rw [parts.written]
  rcases parts.http with rfl | rfl <;> simp

theorem getLast?_toList : server.toList.getLast? = digits.getLast? := by
  rw [parts.written, List.getLast?_eq_some_getLast parts.someDigits]
  simp [List.getLast?_append, List.getLast?_cons, List.getLast?_eq_some_getLast parts.someDigits]

/-- Such a server starts with a letter and ends with a digit, so there is nothing to trim off. -/
theorem trimmed : Text.trimmed server = server := by
  have bare : Text.Bare server.toList := by
    refine ⟨?_, ?_, ?_⟩
    · intro empty
      simpa [empty] using parts.head?_toList
    · intro character first
      rw [parts.head?_toList] at first
      obtain rfl := Option.some.inj first
      decide
    · intro digit last
      rw [parts.getLast?_toList] at last
      exact Text.not_isBlank_of_isDigit (parts.allDigits digit (List.mem_of_getLast? last))
  rw [Text.trimmed, bare.trim, String.ofList_toList]

/-- Reading such a server is reading what stands after the slashes. -/
theorem parse_append {rest : List Char} (visible : ∀ character ∈ rest, 32 < character.toNat) :
    Url.parse (server ++ String.ofList rest) =
      afterSlashes scheme (host ++ ':' :: (digits ++ rest)) := by
  have together : server ++ String.ofList rest =
      scheme ++ "://" ++ String.ofList (host ++ ':' :: (digits ++ rest)) := by
    rw [parts.written, ← String.toList_inj]
    simp
  rw [together]
  refine parse_of_http parts.http parts.isHost fun character member => ?_
  rcases List.mem_append.1 member with inDigits | inRest
  · exact Nat.lt_of_lt_of_le (by decide) (Text.toNat_of_isDigit (parts.allDigits _ inDigits)).1
  · exact visible character inRest

end IsServer

/-! ## Servers in normal form -/

/-- The URL of a server, which gives the URLs of all paths on it. -/
structure IsHome (server : String) (home : Url) : Prop where
  read : Url.parse server = .ok home
  http : IsHttp home.scheme
  hosted : ∃ host, home.host? = some host ∧ host.text ≠ ""
  /-- There is no slash to take off. -/
  noSlash : server.toList.getLast? ≠ some '/'
  readPath : ∀ path : String, IsPlainPath path.toList →
    Url.parse (server ++ path) = .ok { home with path, query? := none, fragment? := none }

/-- A text of the form of a server's URL, which normalising takes, has a URL. -/
theorem exists_isHome {server again : String} (hasForm : HasServerForm server)
    (taken : normalizeServer server = .ok again) : ∃ home, IsHome server home := by
  obtain ⟨scheme, host, digits, parts⟩ := hasForm
  have nothing : ∀ character ∈ ([] : List Char), 32 < character.toNat := by simp
  have whole := parts.parse_append nothing
  rw [String.ofList_nil, String.append_empty, List.append_nil] at whole
  cases read : Url.parse server with
  | error fault =>
      rw [normalizeServer, parts.trimmed, read] at taken
      cases taken
  | ok home =>
      -- all that is known of the URL is what was read after the slashes
      have alone := whole.symm.trans read
      obtain ⟨sameScheme, hosted⟩ := host_of_afterSlashes alone
      obtain ⟨_, found, named, foundHost⟩ := hosted parts.http.isWeb
      refine ⟨home, read, sameScheme ▸ parts.http, ⟨found, foundHost, ?_⟩, ?_, ?_⟩
      · intro empty
        exact (isHostText_of_webHost named).ne_nil (by simp [empty])
      · intro slash
        rw [parts.getLast?_toList] at slash
        exact absurd (parts.allDigits _ (List.mem_of_getLast? slash)) (by decide)
      · intro path isPath
        have visible : ∀ character ∈ path.toList, 32 < character.toNat :=
          fun character member => visible_of_isPlain (isPath.plain character member)
        have extended := parts.parse_append visible
        rw [String.ofList_toList] at extended
        rw [extended,
          afterSlashes_append parts.http.isWeb parts.isHost parts.allDigits alone isPath,
          String.ofList_toList]

end LibraryScout.Settings
