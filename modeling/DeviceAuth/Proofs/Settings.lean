import DeviceAuth.Proofs.Claim.Localize
import DeviceAuth.Settings
import Mathlib.Data.List.TakeWhile

/-! The host of a server. An address is read as a scheme, a host, perhaps a port, and perhaps a
path, a query or a fragment. The host of the settings is what stands between the scheme and the
next colon or slash. That is the host of the address if it is a name, and if a query or a fragment
does not follow it at once; an address between brackets has colons of its own, so it is cut off. -/

namespace DeviceAuth

open Localize (schemeMark placeholder hostEnds startsWithOneOf PlaceholderIn)

/-! ## Sites -/

namespace Host

def isNameCharacter (character : Char) : Bool :=
  character.isAlphanum || ['-', '.', '_'].contains character

def isGroupCharacter (character : Char) : Bool :=
  (Hexadecimal.digit? character).isSome || [':', '.'].contains character

end Host

/-- The host in an address. -/
inductive Host where
  | name (text : List Char) (given : text ≠ []) (allowed : text.all Host.isNameCharacter = true)
  | groups (text : List Char) (colon : ':' ∈ text)
      (allowed : text.all Host.isGroupCharacter = true)

namespace Host

def text : Host → List Char
  | name text _ _ => text
  | groups text _ _ => '[' :: text ++ [']']

theorem text_ne_nil (host : Host) : host.text ≠ [] := by
  cases host with
  | name text given => exact given
  | groups => exact List.cons_ne_nil _ _

def IsName : Host → Prop
  | name _ _ _ => True
  | groups _ _ _ => False

end Host

structure Site where
  scheme : List Char
  host : Host
  port : Option (List Char)
  rest : List Char
  schemePlain : ':' ∉ scheme
  portDigits : ∀ digits ∈ port, digits.all Char.isDigit = true
  restBegins : (rest.isEmpty || startsWithOneOf ['/', '?', '#'] rest) = true

namespace Site

def behindHost (site : Site) : List Char :=
  match site.port with
  | some digits => ':' :: digits ++ site.rest
  | none => site.rest

def text (site : Site) : List Char :=
  site.scheme ++ schemeMark ++ site.host.text ++ site.behindHost

/-- The host runs on into a query or a fragment, with no port and no path between them. -/
def RunsOn (site : Site) : Prop :=
  site.port = none ∧ startsWithOneOf ['?', '#'] site.rest = true

/-! ## What is taken for the host -/

def goesOn (character : Char) : Bool := character ∉ [':', '/']

theorem hostOf_text (site : Site) :
    Settings.hostOf site.text = (site.host.text ++ site.behindHost).takeWhile goesOn := by
  have splits : Text.SplitsAtFirst schemeMark site.text site.scheme
      (site.host.text ++ site.behindHost) := by
    rw [text, List.append_assoc (site.scheme ++ schemeMark)]
    exact .of_not_mem site.schemePlain
  have found := Text.splitFirst?_eq_some_iff.mpr splits
  have both : (fun character => decide ((character != ':') = true ∧ (character != '/') = true)) =
      goesOn := by
    funext character
    simp [goesOn]
  rw [Settings.hostOf, show [':', '/', '/'] = schemeMark from rfl, found]
  dsimp only
  rw [List.takeWhile_takeWhile, both]

theorem hostOf_text_of_isName {site : Site} (name : site.host.IsName) :
    Settings.hostOf site.text = site.host.text ++ site.behindHost.takeWhile goesOn := by
  have within : ∀ character ∈ site.host.text, goesOn character = true := by
    intro character member
    cases host : site.host with
    | groups =>
        rw [host] at name
        cases name
    | name text given allowed =>
        rw [host] at member
        have part := List.all_eq_true.mp allowed character member
        rw [goesOn, decide_eq_true_eq]
        intro stops
        simp only [List.mem_cons, List.not_mem_nil, or_false] at stops
        rcases stops with rfl | rfl
        · exact absurd part (by decide)
        · exact absurd part (by decide)
  rw [hostOf_text, List.takeWhile_append_of_pos within]

theorem hostOf_text_ne_of_groups {site : Site} (groups : ¬ site.host.IsName) :
    Settings.hostOf site.text ≠ site.host.text := by
  have colon : ':' ∈ site.host.text := by
    cases host : site.host with
    | name =>
        rw [host] at groups
        exact absurd trivial groups
    | groups text colon => exact .tail _ (List.mem_append_left _ colon)
  intro whole
  rw [← whole, hostOf_text] at colon
  exact absurd (List.mem_takeWhile_imp colon) (by decide)

theorem takeWhile_behindHost_eq_nil_iff (site : Site) :
    site.behindHost.takeWhile goesOn = [] ↔ ¬ site.RunsOn := by
  have begins := site.restBegins
  unfold behindHost RunsOn
  cases port : site.port with
  | some digits => simp [goesOn]
  | none =>
      cases rest : site.rest with
      | nil => simp [startsWithOneOf]
      | cons first others =>
          rw [rest] at begins
          simp only [List.isEmpty_cons, startsWithOneOf, List.contains_cons, List.contains_nil,
            Bool.false_or, Bool.or_false, Bool.or_eq_true, beq_iff_eq] at begins
          rcases begins with rfl | rfl | rfl <;> simp [goesOn, startsWithOneOf]

theorem hostOf_text_eq_iff (site : Site) :
    Settings.hostOf site.text = site.host.text ↔ site.host.IsName ∧ ¬ site.RunsOn := by
  by_cases name : site.host.IsName
  · rw [hostOf_text_of_isName name, List.append_right_eq_self, takeWhile_behindHost_eq_nil_iff]
    exact (and_iff_right name).symm
  · exact iff_of_false (hostOf_text_ne_of_groups name) fun both => name both.1

end Site

/-! ## Addresses in a configuration -/

namespace Localize

def schemeFor (tlsEnabled : Bool) (scheme : List Char) : List Char :=
  if tlsEnabled then scheme else (schemes.lookup scheme).getD scheme

section Address

variable {scheme : List Char} (colonless : ':' ∉ scheme)

include colonless

theorem plainScheme_address (address : List Char) :
    plainScheme (scheme ++ schemeMark ++ address) =
      schemeFor false scheme ++ schemeMark ++ address := by
  rcases plainScheme_cases (scheme ++ schemeMark ++ address) with
    ⟨plain, same⟩ | ⟨secure, member, others, equal, replaced⟩
  · have unlisted : schemes.lookup scheme = none := by
      rw [List.lookup_eq_none_iff]
      intro secure member
      rw [bne_iff_ne]
      rintro rfl
      exact plain ⟨secure, member, List.prefix_append _ _⟩
    rw [same, schemeFor, unlisted]
    rfl
  · have split : Text.SplitsAtFirst schemeMark (scheme ++ schemeMark ++ address) scheme address :=
      .of_not_mem colonless
    have otherSplit : Text.SplitsAtFirst schemeMark (scheme ++ schemeMark ++ address) secure.1
        others := by
      rw [equal]
      exact .of_not_mem (colon_not_mem_schemes member).1
    rcases split.unique otherSplit with ⟨rfl, rfl⟩
    have listed : ∀ secure ∈ schemes, schemes.lookup secure.1 = some secure.2 := by decide
    rw [replaced, schemeFor, listed secure member]
    rfl

theorem characters_address {host : List Char} (given : host ≠ []) (tlsEnabled : Bool)
    {rest : List Char}
    (ends : rest = [] ∨ ∃ character ∈ hostEnds, rest.head? = some character) :
    characters host tlsEnabled (scheme ++ schemeMark ++ placeholder ++ rest) =
      schemeFor tlsEnabled scheme ++ schemeMark ++ host ++ rest := by
  have found : PlaceholderIn (scheme ++ schemeMark ++ placeholder ++ rest) (scheme ++ schemeMark)
      rest := by
    rw [List.append_assoc _ placeholder]
    exact .address scheme rest (.of_not_mem colonless) ends
  have named := characters_of_found found given
  cases tlsEnabled with
  | true => exact named
  | false =>
      show plainScheme (characters host true _) = _
      rw [named, List.append_assoc _ host, plainScheme_address colonless,
        List.append_assoc _ host]

end Address

end Localize

/-! ## The host of the settings -/

namespace Settings

/-- The host of a server is found exactly if it is a name and no query or fragment follows it at
once. What is found in any case is what stands before the first colon or slash after the scheme.
Where the host is found, it is filled in for the placeholder in every address of a configuration,
and the port and the path of that address are kept. -/
theorem apiHost_eq_host_iff {settings : Settings} {site : Site}
    (located : settings.baseUrl.toList = site.text) :
    settings.apiHost.toList = (site.host.text ++ site.behindHost).takeWhile Site.goesOn ∧
    (settings.apiHost.toList = site.host.text ↔ site.host.IsName ∧ ¬ site.RunsOn) ∧
    (site.host.IsName → ¬ site.RunsOn → ∀ scheme rest : List Char, ':' ∉ scheme →
      (rest = [] ∨ ∃ character ∈ hostEnds, rest.head? = some character) →
      Localize.characters settings.apiHost.toList settings.tlsEnabled
          (scheme ++ schemeMark ++ placeholder ++ rest) =
        Localize.schemeFor settings.tlsEnabled scheme ++ schemeMark ++ site.host.text ++ rest) := by
  have found : settings.apiHost.toList = hostOf site.text := by
    rw [apiHost, String.toList_ofList, located]
  rw [found]
  refine ⟨site.hostOf_text, site.hostOf_text_eq_iff, ?_⟩
  intro name plain scheme rest colonless ends
  have whole := site.hostOf_text_eq_iff.mpr ⟨name, plain⟩
  rw [whole]
  exact Localize.characters_address colonless site.host.text_ne_nil settings.tlsEnabled ends

def namedSite : Site where
  scheme := "https".toList
  host := .name "api.example.com".toList (by decide) (by decide)
  port := some "8443".toList
  rest := "?tenant=1".toList
  schemePlain := by decide
  portDigits := by decide
  restBegins := by decide

theorem apiHost_eq_host_named :
    let settings : Settings :=
      { baseUrl := "https://api.example.com:8443?tenant=1", tlsEnabled := false }
    settings.check = .ok () ∧ settings.baseUrl.toList = namedSite.text ∧
      settings.apiHost.toList = "api.example.com".toList ∧
      Localize.characters settings.apiHost.toList false "wss://0.0.0.0:9000/ws".toList =
        "ws://api.example.com:9000/ws".toList := by
  intro settings
  have located : settings.baseUrl.toList = namedSite.text := by decide +kernel
  have plain : ¬ namedSite.RunsOn := fun runsOn => nomatch runsOn.1
  rcases apiHost_eq_host_iff located with ⟨_, found, fitted⟩
  exact ⟨by decide +kernel, located, found.mpr ⟨trivial, plain⟩,
    fitted trivial plain "wss".toList ":9000/ws".toList (by decide)
      (.inr ⟨':', by decide, rfl⟩)⟩

def groupedSite : Site where
  scheme := "http".toList
  host := .groups "fd00::1".toList (by decide) (by decide)
  port := some "8000".toList
  rest := []
  schemePlain := by decide
  portDigits := by decide
  restBegins := by decide

/-- Of a long address the host is cut off at its first colon, and so is the one that is filled in
for the placeholder in a configuration. -/
theorem not_apiHost_eq_host_grouped :
    let settings : Settings := { baseUrl := "http://[fd00::1]:8000" }
    settings.check = .ok () ∧ settings.baseUrl.toList = groupedSite.text ∧
      groupedSite.host.text = "[fd00::1]".toList ∧ settings.apiHost = "[fd00" ∧
      Localize.text settings.apiHost settings.tlsEnabled "ws://0.0.0.0:9000/ws" =
        "ws://[fd00:9000/ws" := by
  intro settings
  decide +kernel

end Settings

end DeviceAuth
