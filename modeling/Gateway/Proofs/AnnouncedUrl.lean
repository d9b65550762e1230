import Gateway.CommandLine
import Gateway.Proofs.Integers
import Gateway.Proofs.Url.BareAddress
import Gateway.Proofs.Url.Rooted

/- The URL that the program announces. Host and port are written behind `http://` as they are, so
   the text is read as the authority that they make (`ofText?_http`). A domain name and an IPv4
   address come out as that host, and every port comes out as itself, the default one as none
   (`ofText?_serverUrl`). An IPv6 address has colons of its own and is put in no brackets: the text
   is no URL, whatever the port (`ofText?_serverUrl_ipv6`). -/
namespace Gateway

namespace Url

/-- A text that holds nothing that ends an authority is read as one, with the empty path. -/
theorem ofText?_http {s : String} {authority : List Char}
    (hs : s.toList = "http://".toList ++ authority) (h : IsSegment authority) :
    ofText? s = (readAuthority "http" authority).map fun a => make "http" a [[]] none none := by
  have hscheme : ("http://".toList.all fun c => c == '/' || isSegmentChar c) = true := by decide
  have hslash : ∀ c ∈ authority, isSlash true c = false :=
    fun c hc => (isSegmentChar_iff.mp (h c hc)).2
  have htext : IsPathText s.toList := by
    intro c hc
    rw [hs] at hc
    rcases List.mem_append.mp hc with hc | hc
    · simpa using List.all_eq_true.mp hscheme c hc
    · exact .inr (h c hc)
  have hread : ofText? s = readAfterSlashes "http" ('/' :: '/' :: authority) none none := by
    rw [ofText?, parse?, readClean, htext.parts, hs]
    rfl
  have hfront : ('/' :: '/' :: authority).dropWhile (isSlash true) = authority :=
    dropWhile_of_forall hslash
  have htake : (authority.takeWhile fun c => !isSlash true c) = authority :=
    List.takeWhile_eq_self_iff.mpr fun c hc => by simp [hslash c hc]
  have hdrop : (authority.dropWhile fun c => !isSlash true c) = [] :=
    List.dropWhile_eq_nil_iff.mpr fun c hc => by simp [hslash c hc]
  rw [hread, readAfterSlashes, hfront, readFromAuthority, show isSpecialScheme "http" = true from rfl,
    htake, hdrop]
  rfl

end Url

namespace CommandLine

/-- The host that a name stands for: a domain name of lowercase letters and dots, an IPv4 address
    as four bytes in decimal, or an IPv6 address without brackets. -/
inductive StandsFor (name : String) : Url.Host → Prop
  | domain (h : Url.IsPlainDomain name.toList) : StandsFor name (.name name)
  | ipv4 {address : Nat} (h : name.toList = Url.ipv4Text address) (hlt : address < Nat.pow 2 32) :
    StandsFor name (.ipv4 address)
  | ipv6 {pieces : List Nat} (h : Url.readIpv6 name.toList = some pieces) :
    StandsFor name (.ipv6 pieces)

/-- The text is a URL of this host and this port; without a port it is that of port 80. -/
def IsUrlOf (text : String) (host : Url.Host) (port : Nat) : Prop :=
  ∃ u, Url.ofText? text = some u ∧ u.scheme = "http" ∧ u.host = some host ∧ u.port.getD 80 = port

/-- The URL of the root of a server. -/
def rootUrl (host : Url.Host) (port : Nat) : Url :=
  ⟨"http", "", "", some host, if port = 80 then none else some port, .segments [""], none, none⟩

/-- The digits of a port behind the host; the default port has none. -/
def portDigits (port : Nat) : Option (List Char) :=
  if port = 80 then none else some (Nat.toDigits 10 port)

section
variable {name : String} {host : Url.Host} {port : Nat}

theorem toList_serverUrl (hport : port ≤ 65535) :
    (serverUrl name (.ofNat port)).toList =
      "http://".toList ++ (name.toList ++ Url.marked ':' (portDigits port)) := by
  have hdefault : Number.ofNat port = 80 ↔ port = 80 :=
    Number.ofNat_inj (by omega) (by decide)
  unfold serverUrl portDigits
  by_cases h : port = 80
  · rw [if_pos (hdefault.mpr h), if_pos h, String.toList_append]
    simp [Url.marked]
  · rw [if_neg (mt hdefault.mp h), if_neg h, Number.toText_ofNat (by omega)]
    simp [Url.marked]

theorem isPortText_portDigits (hport : port ≤ 65535) :
    ∀ digits ∈ portDigits port, Url.IsPortText digits := by
  intro digits hdigits
  unfold portDigits at hdigits
  split at hdigits
  · cases hdigits
  · cases hdigits
    exact Url.isPortText_toDigits hport

theorem keptPort_portDigits :
    (portDigits port).bind (Url.keptPort "http") = if port = 80 then none else some port := by
  unfold portDigits
  split
  · rfl
  · next hne =>
    have hdefault : Url.defaultPort? "http" ≠ some port := by
      simpa [Url.defaultPort?] using Ne.symm hne
    have hkept : ¬(Nat.toDigits 10 port = [] ∨ Url.defaultPort? "http" = some port) :=
      not_or.mpr ⟨Nat.toDigits_ne_nil, hdefault⟩
    rw [Option.bind_some, Url.keptPort, Url.digitsValue_toDigits, if_neg hkept]

/-- A host that is read as it is written is announced with its port. -/
theorem ofText?_serverUrl (hchars : ∀ c ∈ name.toList, Url.isHostChar c = true)
    (hread : Url.Host.read true name.toList = some host) (hport : port ≤ 65535) :
    Url.ofText? (serverUrl name (.ofNat port)) = some (rootUrl host port) := by
  have hdigits := isPortText_portDigits hport
  rw [Url.ofText?_http (toList_serverUrl hport) (Url.isSegment_host hchars hdigits),
    Url.readAuthority_host rfl hchars hread hdigits, keptPort_portDigits]
  rfl

/-- An address without brackets is announced as what is no URL. -/
theorem ofText?_serverUrl_ipv6 {pieces : List Nat} (h : Url.readIpv6 name.toList = some pieces)
    (hport : port ≤ 65535) : Url.ofText? (serverUrl name (.ofNat port)) = none := by
  let authority := name.toList ++ Url.marked ':' (portDigits port)
  have hchars : ∀ c ∈ authority, Url.isAddressChar c = true := by
    intro c hc
    rcases List.mem_append.mp hc with hc | hc
    · exact Url.isAddressChar_of_readIpv6 h c hc
    · rcases Url.isDigit_of_mem_marked (isPortText_portDigits hport) hc with rfl | hdigit
      · rfl
      · exact Url.isAddressChar_of_hexValue (by simp [Url.hexValue, hdigit])
  have hcolons : 2 ≤ authority.count ':' :=
    Nat.le_trans (Url.two_le_count_of_readIpv6 h) ((List.sublist_append_left ..).count_le ':')
  have hread : Url.readAuthority "http" authority = none :=
    Url.readAuthority_of_colons (fun hm => (Url.plain_of_isAddressChar (hchars _ hm)).2.1 rfl)
      (fun hm => (Url.plain_of_isAddressChar (hchars _ hm)).2.2 rfl) hcolons
  rw [Url.ofText?_http (toList_serverUrl hport) fun c hc =>
    (Url.plain_of_isAddressChar (hchars c hc)).1, hread]
  rfl

/-- A host that is no IPv6 address has the characters of one that is read as it is written. -/
theorem StandsFor.read (hname : StandsFor name host) (hno : ∀ pieces, host ≠ .ipv6 pieces) :
    (∀ c ∈ name.toList, Url.isHostChar c = true) ∧ Url.Host.read true name.toList = some host := by
  cases hname with
  | domain h => exact ⟨fun _ => h.isHostChar, by rw [h.read, String.ofList_toList]⟩
  | ipv4 h hlt =>
    rw [h]
    exact ⟨fun _ => Url.isHostChar_of_mem_ipv4Text, Url.read_ipv4Text hlt⟩
  | ipv6 h => exact absurd rfl (hno _)

/-- What is announced is a URL of the host and the port, exactly if the host is no IPv6 address. -/
theorem announces_iff (hname : StandsFor name host) (hport : port ≤ 65535) :
    IsUrlOf (serverUrl name (.ofNat port)) host port ↔ ∀ pieces, host ≠ .ipv6 pieces := by
  constructor
  · rintro ⟨u, hu, -⟩ pieces rfl
    cases hname with
    | ipv6 h =>
      rw [ofText?_serverUrl_ipv6 h hport] at hu
      cases hu
  · intro hno
    obtain ⟨hchars, hread⟩ := hname.read hno
    refine ⟨rootUrl host port, ofText?_serverUrl hchars hread hport, rfl, rfl, ?_⟩
    unfold rootUrl
    dsimp only
    split
    · next hdefault => exact hdefault.symm
    · rfl

theorem localhost_announced :
    StandsFor "localhost" (.name "localhost") ∧
      IsUrlOf (serverUrl "localhost" 8080) (.name "localhost") 8080 := by
  have hname : StandsFor "localhost" (.name "localhost") :=
    .domain ⟨by decide, List.all_eq_true.mp (by decide)⟩
  have hport : 8080 ≤ 65535 := by decide
  exact ⟨hname, (announces_iff hname hport).mpr fun _ => nofun⟩

/-- The loopback address of IPv6. -/
theorem loopback_not_announced :
    StandsFor "::1" (.ipv6 [0, 0, 0, 0, 0, 0, 0, 1]) ∧
      ¬ IsUrlOf (serverUrl "::1" 8080) (.ipv6 [0, 0, 0, 0, 0, 0, 0, 1]) 8080 := by
  have hread : Url.readIpv6 "::1".toList = some [0, 0, 0, 0, 0, 0, 0, 1] := by decide
  have hport : 8080 ≤ 65535 := by decide
  have hnone : Url.ofText? (serverUrl "::1" 8080) = none := ofText?_serverUrl_ipv6 hread hport
  refine ⟨.ipv6 hread, ?_⟩
  rintro ⟨u, hu, -⟩
  rw [hnone] at hu
  cases hu

end

end CommandLine

end Gateway
