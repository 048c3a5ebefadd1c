import Sidecar.Endpoint
import Sidecar.Proofs.Url.Parser

/-!
# The URL of an endpoint

A host that is one is the host of the URL, and nothing else is in the URL but the port.  A host with
separators is not checked before it is put into the URL, so parts of it are taken for others.

The main result is `baseUrl_names_iff`.
-/

namespace Sidecar.Endpoint

open Url (separators)

variable {e : Endpoint} {u : Url}

/-- The port as a URL has it. -/
def shownPort (e : Endpoint) : Option Nat :=
  if e.port.toNat = Url.defaultPort then none else some e.port.toNat

/-- The URL has the host and the port of the endpoint and nothing else. -/
structure Names (e : Endpoint) (u : Url) : Prop where
  host : Url.parseHost e.host.toList = .ok u.host
  port : u.port = e.shownPort
  path : u.path = [""]
  userInfo : u.username = "" ∧ u.password = none
  query : u.query = none
  fragment : u.fragment = none

theorem Names.eq (h : Names e u) : u = { host := u.host, port := e.shownPort } := by
  obtain ⟨-, hport, hpath, ⟨husername, hpassword⟩, hquery, hfragment⟩ := h
  cases u
  cases hport
  cases hpath
  cases husername
  cases hpassword
  cases hquery
  cases hfragment
  rfl

theorem toList_address (e : Endpoint) : e.address.toList =
    "http://".toList ++ (e.host.toList ++ ':' :: Nat.toDigits 10 e.port.toNat) ++ ['/'] := by
  unfold address
  rw [String.toList_append, String.toList_append, String.toList_append, String.toList_append,
    Nat.toString_eq_ofList_toDigits, String.toList_ofList]
  simp

/-- Without separators the text is read as a host and a port. -/
theorem parse_address (h : ∀ c ∈ separators, c ∉ e.host.toList) :
    Url.parse e.address =
      Url.parseAddress (e.host.toList ++ ':' :: Nat.toDigits 10 e.port.toNat) := by
  refine Url.parse_of_toList (fun c hc hmem => ?_) (toList_address e)
  rcases List.mem_append.1 hmem with hmem | hmem
  · exact h c hc hmem
  · have hkept : ∀ c ∈ separators, c ≠ ':' ∧ ¬c.isDigit := List.all_iff_forall_prop.1 (by decide)
    rcases List.mem_cons.1 hmem with rfl | hmem
    · exact (hkept ':' hc).1 rfl
    · exact (hkept c hc).2 (Nat.isDigit_of_mem_toDigits (by decide) (by decide) hmem)

theorem baseUrl_eq_ok_iff : e.baseUrl = .ok u ↔ Url.parse e.address = .ok u := by
  unfold baseUrl
  cases Url.parse e.address with
  | error fault => exact iff_of_false nofun nofun
  | ok v => simp [Except.mapError]

theorem exists_fault_of_baseUrl {error : Error} (h : e.baseUrl = .error error) :
    ∃ fault : Url.ParseFault, error = .invalidEndpoint (e.address ++ ": " ++ fault.text) := by
  unfold baseUrl at h
  cases hparse : Url.parse e.address with
  | error fault =>
    rw [hparse] at h
    exact ⟨fault, (Except.error.inj h).symm⟩
  | ok v =>
    rw [hparse] at h
    cases h

/-- Without separators the URL names the endpoint just if the host is one. -/
theorem baseUrl_eq_ok_iff_names (h : ∀ c ∈ separators, c ∉ e.host.toList) :
    e.baseUrl = .ok u ↔ Names e u := by
  have hport : e.port.toNat ≤ Url.greatestPort := Nat.le_of_lt_succ e.port.toNat_lt
  rw [baseUrl_eq_ok_iff, parse_address h, Url.parseAddress_eq_ok_iff hport]
  constructor
  · rintro ⟨hhost, hu⟩
    rw [hu]
    exact ⟨hhost, rfl, rfl, ⟨rfl, rfl⟩, rfl, rfl⟩
  · intro hnames
    exact ⟨hnames.host, hnames.eq⟩

/-- The port 80 is not written. -/
theorem Names.text_eq (h : Names e u) : u.text =
    "http://" ++ u.host ++ (if e.port.toNat = 80 then "" else ":" ++ toString e.port.toNat) ++
      "/" := by
  have huserInfo (port : Option Nat) : Url.userInfoText { host := u.host, port } = "" := rfl
  rw [h.eq, Url.text, Url.authorityText, huserInfo, shownPort]
  by_cases hport : e.port.toNat = 80
  · simp [hport, Url.defaultPort, Url.pathText, Url.queryText, Url.fragmentText]
  · simp [hport, Url.defaultPort, Url.pathText, Url.queryText, Url.fragmentText,
      String.append_assoc]

/-- An endpoint has the URL that names it if its host is one; without a URL it is refused as an
endpoint.  The URL names the endpoint just if there are no separators in the host. -/
theorem baseUrl_names_iff (e : Endpoint) :
    (∀ error, e.baseUrl = .error error →
      ∃ fault : Url.ParseFault, error = .invalidEndpoint (e.address ++ ": " ++ fault.text)) ∧
    (∀ u, e.baseUrl = .ok u → (Names e u ↔ ∀ c ∈ separators, c ∉ e.host.toList)) ∧
    (∀ name, Url.parseHost e.host.toList = .ok name →
      ∃ u, e.baseUrl = .ok u ∧ Names e u ∧ u.host = name) ∧
    ∀ u, Names e u → u.text =
      "http://" ++ u.host ++ (if e.port.toNat = 80 then "" else ":" ++ toString e.port.toNat) ++
        "/" := by
  refine ⟨fun _ => exists_fault_of_baseUrl, fun u hu => ⟨fun h => ?_, fun h => ?_⟩,
    fun name hname => ?_, fun _ => Names.text_eq⟩
  · exact Url.not_mem_separators_of_parseHost h.host
  · exact (baseUrl_eq_ok_iff_names h).1 hu
  · have hplain := Url.not_mem_separators_of_parseHost hname
    have hnames : Names e { host := name, port := e.shownPort } :=
      ⟨hname, rfl, rfl, ⟨rfl, rfl⟩, rfl, rfl⟩
    exact ⟨_, (baseUrl_eq_ok_iff_names hplain).2 hnames, hnames, rfl⟩

/-- An address in brackets is a host, and the port 80 is not shown behind it. -/
theorem baseUrl_names_iff_brackets :
    Url.parseHost "[0:0::1]".toList = .ok "[::1]" ∧
      ∃ u, Endpoint.baseUrl { host := "[0:0::1]", port := 80 } = .ok u ∧
        Names { host := "[0:0::1]", port := 80 } u ∧ u.text = "http://[::1]/" := by
  have hhost : Url.parseHost "[0:0::1]".toList = .ok "[::1]" := by rfl
  obtain ⟨-, -, hurl, htext⟩ := baseUrl_names_iff { host := "[0:0::1]", port := 80 }
  obtain ⟨u, hu, hnames, hname⟩ := hurl "[::1]" hhost
  refine ⟨hhost, u, hu, hnames, ?_⟩
  rw [htext u hnames, hname]
  decide

/-- With a question mark in the host the port is taken for a part of the query. -/
theorem baseUrl_question_mark :
    (Endpoint.baseUrl { host := "[::1]?q" }).toOption =
        some { host := "[::1]", port := none, path := [""], query := some "q:3500/" } ∧
      ∀ u, Endpoint.baseUrl { host := "[::1]?q" } = .ok u → ¬Names { host := "[::1]?q" } u := by
  have hurl : (Endpoint.baseUrl { host := "[::1]?q" }).toOption =
      some { host := "[::1]", port := none, path := [""], query := some "q:3500/" } := by
    decide +kernel
  refine ⟨hurl, fun u hu hnames => ?_⟩
  rw [hu] at hurl
  cases hurl
  exact absurd hnames.query (Option.some_ne_none _)

end Sidecar.Endpoint
