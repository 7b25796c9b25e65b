import LibraryScout.Proofs.Settings.Server
import LibraryScout.Proofs.Url.Port

/-!
Contract: normal forms of servers are their own normal forms.

Owns:
- `HostReadsBack`, what has to be known of the host in a text;
- `Normalized`, what is left of a URL in its normal form, and that this is all that there is in it;
- that normalising a normal form changes nothing.

Does not own: that hosts are read back from their text. This rests on the tables for names beyond
ASCII, and is taken for each host as it comes.
-/

namespace LibraryScout.Settings

open LibraryScout.Url

/-- The host that a text names, if it names one, is read back from the form in which it is
written. -/
def HostReadsBack (text : String) : Prop :=
  ∀ url ∈ (Url.parse (Text.trimmed text)).toOption, ∀ host ∈ url.host?,
    webHost host.text.toList = .ok host

instance (text : String) : Decidable (HostReadsBack text) := by
  unfold HostReadsBack
  infer_instance

/-- A URL with a host has a server for its normal form. -/
structure Normalized (url : Url) (host : Host) (server : String) : Prop where
  http : IsHttp url.scheme
  hosted : url.host? = some host
  /-- The port is always written, and is the one of the scheme where the URL names none. -/
  written : server = url.scheme ++ "://" ++ host.text ++ ":" ++
    toString (url.port?.getD (if url.scheme = "http" then 80 else 443))
  /-- Neither user nor path, query or fragment are left. -/
  read : Url.parse server = .ok (bare url.scheme host url.port?)
  fixed : normalizeServer server = .ok server

theorem defaultPort?_of_isHttp {scheme : String} (http : IsHttp scheme) :
    defaultPort? scheme = some (if scheme = "http" then 80 else 443) := by
  rcases http with rfl | rfl <;> decide

/-- The port of a server is that of its URL, which is in range and not written twice. -/
theorem port_readBack {text : String} {url : Url} (read : Url.parse text = .ok url)
    (http : IsHttp url.scheme) :
    let port := url.port?.getD (if url.scheme = "http" then 80 else 443)
    port ≤ 65535 ∧
      (some port).filter (fun port => defaultPort? url.scheme ≠ some port) = url.port? := by
  rw [defaultPort?_of_isHttp http]
  cases named : url.port? with
  | none =>
      refine ⟨?_, by simp⟩
      rw [Option.getD_none]
      split <;> decide
  | some port =>
      obtain ⟨inRange, other⟩ := port_of_parse read http.isWeb named
      rw [defaultPort?_of_isHttp http] at other
      exact ⟨inRange, by simpa using other⟩

theorem serverOf_bare {scheme : String} (http : IsHttp scheme) (host : Host) (port? : Option Nat) :
    serverOf (bare scheme host port?) = .ok (scheme ++ "://" ++ host.text ++ ":" ++
      toString (port?.getD (if scheme = "http" then 80 else 443))) := by
  have other : ¬(scheme ≠ "http" ∧ scheme ≠ "https") := by
    rcases http with rfl | rfl <;> decide
  unfold serverOf
  simp only [bare, Url.portOrDefault?, defaultPort?_of_isHttp http, if_neg other]
  cases port? <;> rfl

/-- A server that is written with its port is its own normal form. -/
theorem normalizeServer_written {scheme : String} (http : IsHttp scheme) {host : Host}
    (isHost : IsHostText host.text.toList) (readsBack : webHost host.text.toList = .ok host)
    {port : Nat} (inRange : port ≤ 65535) :
    normalizeServer (scheme ++ "://" ++ host.text ++ ":" ++ toString port) =
      .ok (scheme ++ "://" ++ host.text ++ ":" ++ toString port) := by
  have filledIn : ((some port).filter fun port => defaultPort? scheme ≠ some port).getD
      (if scheme = "http" then 80 else 443) = port := by
    rw [defaultPort?_of_isHttp http]
    generalize (if scheme = "http" then 80 else 443) = own
    by_cases same : own = port <;> simp [Option.filter_some, same]
  rw [normalizeServer, (isServer_written http isHost port).trimmed,
    parse_written http isHost readsBack inRange]
  simp only [serverOf_bare http, filledIn]

/-- What comes out of normalising is the scheme, the host and the port of the text, and is its own
normal form. -/
theorem normalized_of_normalizeServer {text server : String} (readsBack : HostReadsBack text)
    (normalizes : normalizeServer text = .ok server) :
    ∃ url host, Url.parse (Text.trimmed text) = .ok url ∧ Normalized url host server := by
  obtain ⟨url, read, served⟩ := normalizeServer_eq_ok normalizes
  obtain ⟨http, host, port, hosted, ported, rfl⟩ := serverOf_eq_ok served
  obtain ⟨_, found, named, foundHost⟩ := webHost_of_parse read http.isWeb
  obtain rfl := Option.some.inj (hosted.symm.trans foundHost)
  have isHost := isHostText_of_webHost named
  have hostRead : webHost host.text.toList = .ok host :=
    readsBack url (by simp [read, Except.toOption]) host hosted
  obtain ⟨inRange, filtered⟩ := port_readBack read http
  obtain rfl : url.port?.getD (if url.scheme = "http" then 80 else 443) = port := by
    rw [Url.portOrDefault?, defaultPort?_of_isHttp http] at ported
    cases named : url.port? with
    | none => simpa [named] using ported
    | some own => simpa [named] using ported
  have readAgain := parse_written http isHost hostRead inRange
  rw [filtered] at readAgain
  exact ⟨url, host, read, http, hosted, rfl, readAgain,
    normalizeServer_written http isHost hostRead inRange⟩

end LibraryScout.Settings
