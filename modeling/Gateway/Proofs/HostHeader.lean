import Gateway.Proofs.Dispatch
import Gateway.Proofs.Url.Query

/- What the Host header decides. A target with a slash in front is put behind the host value
   and both are read as one text, so the authority ends at the first slash, backslash,
   question mark or number sign of the host value, if it has one, and what it has from there
   on comes before the target (`ofText?_host`). Two host values that agree in that part give
   every request the same path and the same query (`host_does_not_route`). -/
namespace Gateway

/-- The value of the Host header, or what stands for it. -/
def Incoming.hostText (i : Incoming) : String := (i.headers.given? "host").getD "localhost"

namespace Url

/-- What ends an authority. -/
def endsAuthority (c : Char) : Bool := isSlash true c || c == '?' || c == '#'

/-- What is read of a host value: no ignored characters, and no slashes in front. -/
def readHost (host : String) : List Char :=
  (host.toList.filter fun c => !isDropped c).dropWhile (isSlash true)

/-- The authority that a host value names. -/
def hostAuthority (host : String) : List Char :=
  (readHost host).takeWhile fun c => !endsAuthority c

/-- What a host value has behind the authority that it names, if it names one. -/
def behindAuthority (host : String) : Option (List Char) :=
  if readHost host = [] then none else some ((readHost host).dropWhile fun c => !endsAuthority c)

/-- A host value that holds nothing that ends an authority has nothing behind it. -/
theorem behindAuthority_of_plain {host : String}
    (hplain : host.toList.all (fun c => !endsAuthority c) = true)
    (hnames : host.toList.any (fun c => !isDropped c) = true) : behindAuthority host = some [] := by
  have hread : readHost host = host.toList.filter fun c => !isDropped c := by
    apply dropWhile_of_forall
    intro c hc
    have hend := List.all_eq_true.mp hplain c (List.mem_filter.mp hc).1
    simp only [endsAuthority, Bool.not_eq_true', Bool.or_eq_false_iff] at hend
    exact hend.1.1
  have hne : readHost host ≠ [] := by
    obtain ⟨c, hc, hkept⟩ := List.any_eq_true.mp hnames
    rw [hread]
    exact List.ne_nil_of_mem (List.mem_filter.mpr ⟨hc, hkept⟩)
  have hall : ∀ c ∈ readHost host, (!endsAuthority c) = true := by
    intro c hc
    rw [hread] at hc
    exact List.all_eq_true.mp hplain c (List.mem_filter.mp hc).1
  have hbehind : (readHost host ++ []).dropWhile (fun c => !endsAuthority c) = [] :=
    List.dropWhile_append_of_pos hall
  rw [List.append_nil] at hbehind
  rw [behindAuthority, if_neg hne, hbehind]

/-! ## The parts of the text -/

/-- A text with nothing in front that cuts it is cut where it was. -/
theorem parts_prefix {front : List Char} (hhash : '#' ∉ front) (hquestion : '?' ∉ front)
    (s : List Char) :
    Parts.of (front ++ s) =
      ⟨front ++ (Parts.of s).main, (Parts.of s).query, (Parts.of s).fragment⟩ := by
  have hcut {c : Char} {front : List Char} (h : c ∉ front) (s : List Char) :
      cutAtChar c (front ++ s) = (front ++ (cutAtChar c s).1, (cutAtChar c s).2) := by
    induction front with
    | nil => rfl
    | cons a rest ih =>
      have hne : a ≠ c := Ne.symm (List.ne_of_not_mem_cons h)
      simp [cutAtChar, hne, ih (List.not_mem_of_not_mem_cons h)]
  unfold Parts.of
  rw [hcut hhash]
  dsimp only
  rw [hcut hquestion]

/-- What is read before query and fragment of a text that begins with what ends an authority
    is nothing, or begins with a slash. -/
theorem parts_main_head? {c : Char} (hc : endsAuthority c = true) (s : List Char) :
    ∀ d, (Parts.of (c :: s)).main.head? = some d → d = c ∧ isSlash true d = true := by
  intro d hd
  rw [Parts.of_main] at hd
  by_cases hhash : c = '#'
  · simp [hhash] at hd
  · by_cases hquestion : c = '?'
    · simp [hquestion] at hd
    · have hslash : isSlash true c = true := by simpa [endsAuthority, hhash, hquestion] using hc
      obtain rfl : c = d := by simpa [hhash, hquestion] using hd
      exact ⟨rfl, hslash⟩

theorem eq_false_of_dropWhile {p : Char → Bool} {s more : List Char} {c : Char}
    (h : s.dropWhile p = c :: more) : p c = false := by
  have hhead := List.head?_dropWhile_not p s
  rwa [h] at hhead

/-- A text is cut where a property ends that all characters of its front have. -/
theorem span_append {p : Char → Bool} {s t : List Char} (hs : ∀ c ∈ s, p c = true)
    (ht : ∀ c, t.head? = some c → p c = false) :
    (s ++ t).takeWhile p = s ∧ (s ++ t).dropWhile p = t := by
  rw [List.takeWhile_append_of_pos hs, List.dropWhile_append_of_pos hs]
  cases t with
  | nil => simp
  | cons c rest => simp [ht c rfl]

/-! ## The URL of a host and a target -/

section
variable {host target : String} {rest : List Char}

/-- The slash of the target keeps what is before it from being trimmed. -/
theorem clean_host (htarget : target.toList = '/' :: rest) :
    clean ("http://" ++ host ++ target).toList =
      "http://".toList ++ (host.toList.filter fun c => !isDropped c) ++ clean target.toList := by
  have hlist : ("http://" ++ host ++ target).toList =
      "http://".toList ++ host.toList ++ '/' :: rest := by simp [htarget]
  have hstart : ("http://".toList ++ host.toList ++ '/' :: rest).dropWhile isEdge =
      "http://".toList ++ host.toList ++ '/' :: rest := rfl
  rw [htarget, clean_slash, hlist, clean, hstart]
  show (trimEnd _).filter _ = _
  rw [trimEnd_append (by decide), List.filter_append, List.filter_append]
  rfl

/-- The slashes in front of a host value are passed over like those of the scheme. -/
theorem ofText?_readHost (htarget : target.toList = '/' :: rest) :
    ofText? ("http://" ++ host ++ target) =
      readAfterSlashes "http" (Parts.of (readHost host ++ clean target.toList)).main
        ((Parts.of (readHost host ++ clean target.toList)).query.map (keptQuery "http"))
        ((Parts.of (readHost host ++ clean target.toList)).fragment.map keptFragment) := by
  let slashes := (host.toList.filter fun c => !isDropped c).takeWhile (isSlash true)
  have hslashes : ∀ c ∈ slashes, isSlash true c = true :=
    List.all_eq_true.mp List.all_takeWhile
  have hclean : clean ("http://" ++ host ++ target).toList =
      ("http://".toList ++ slashes) ++ (readHost host ++ clean target.toList) := by
    have hsplit : slashes ++ readHost host = host.toList.filter fun c => !isDropped c :=
      List.takeWhile_append_dropWhile
    rw [clean_host htarget, ← hsplit]
    simp only [List.append_assoc]
  have hout {c : Char} (hscheme : c ∉ "http://".toList) (hc : isSlash true c = false) :
      c ∉ "http://".toList ++ slashes := by
    intro hm
    rcases List.mem_append.mp hm with hm | hm
    · exact hscheme hm
    · rw [hslashes c hm] at hc
      cases hc
  have hparts := parts_prefix (hout (c := '#') (by decide) rfl) (hout (c := '?') (by decide) rfl)
    (readHost host ++ clean target.toList)
  have hafter (s : List Char) (query fragment : Option String) :
      readAfterSlashes "http" ('/' :: '/' :: (slashes ++ s)) query fragment =
        readAfterSlashes "http" s query fragment := by
    have hpassed : (slashes ++ s).dropWhile (isSlash true) = s.dropWhile (isSlash true) :=
      List.dropWhile_append_of_pos hslashes
    unfold readAfterSlashes
    rw [← hpassed]
    rfl
  rw [ofText?, parse?, hclean, readClean, hparts]
  exact hafter _ _ _

/-- What a host value has behind its authority, together with the target, begins with what
    ends an authority. Without an authority it does not begin with a slash. -/
theorem behindAuthority_cases (htarget : target.toList = '/' :: rest) {behind : List Char}
    (hbehind : behindAuthority host = some behind) :
    readHost host = hostAuthority host ++ behind ∧
      ∃ c more, behind ++ clean target.toList = c :: more ∧ endsAuthority c = true ∧
        (hostAuthority host = [] → isSlash true c = false) := by
  unfold behindAuthority at hbehind
  split at hbehind
  · cases hbehind
  · next hne =>
    have hread : readHost host = hostAuthority host ++ behind := by
      rw [← Option.some.inj hbehind]
      exact List.takeWhile_append_dropWhile.symm
    refine ⟨hread, ?_⟩
    rcases behind with _ | ⟨c, more⟩
    · refine ⟨'/', _, by rw [htarget, clean_slash]; rfl, rfl, fun hnone => ?_⟩
      rw [hnone] at hread
      exact absurd hread hne
    · have hends := eq_false_of_dropWhile (Option.some.inj hbehind)
      refine ⟨c, _, rfl, by simpa using hends, fun hnone => ?_⟩
      rw [hnone] at hread
      exact eq_false_of_dropWhile hread

/-- A host value and a target are read as the authority that the host value names, and what
    it has behind that together with the target. -/
theorem ofText?_host (htarget : target.toList = '/' :: rest) {behind : List Char}
    (hbehind : behindAuthority host = some behind) :
    ofText? ("http://" ++ host ++ target) =
      (readAuthority "http" (hostAuthority host)).map fun a =>
        make "http" a
          (segmentsAfterAuthority "http" (Parts.of (behind ++ clean target.toList)).main)
          ((Parts.of (behind ++ clean target.toList)).query.map (keptQuery "http"))
          ((Parts.of (behind ++ clean target.toList)).fragment.map keptFragment) := by
  obtain ⟨hread, c, more, hsplit, hends, hnone⟩ := behindAuthority_cases htarget hbehind
  have hauthority : ∀ c ∈ hostAuthority host, endsAuthority c = false := by
    intro c hc
    simpa using List.all_eq_true.mp List.all_takeWhile c hc
  have hout {c : Char} (hc : endsAuthority c = true) : c ∉ hostAuthority host := by
    intro hm
    rw [hauthority c hm] at hc
    cases hc
  have hpos : ∀ c ∈ hostAuthority host, (!isSlash true c) = true := by
    intro c hc
    have hends := hauthority c hc
    simp only [endsAuthority, Bool.or_eq_false_iff] at hends
    rw [hends.1.1]
    rfl
  rw [ofText?_readHost htarget, hread, List.append_assoc,
    parts_prefix (hout (c := '#') rfl) (hout (c := '?') rfl), hsplit]
  dsimp only
  -- what follows the authority is nothing or begins with a slash, so it is read up to there
  have hstop := parts_main_head? hends more
  generalize Parts.of (c :: more) = p at hstop ⊢
  obtain ⟨htake, hdrop⟩ := span_append hpos fun d hd => by rw [(hstop d hd).2]; rfl
  have hfront : (hostAuthority host ++ p.main).dropWhile (isSlash true) =
      hostAuthority host ++ p.main := by
    refine (span_append (s := []) (by simp) fun d hd => ?_).2
    cases hcases : hostAuthority host with
    | nil =>
      rw [hcases] at hd
      rw [(hstop d hd).1]
      exact hnone hcases
    | cons a rest =>
      rw [hcases] at hd
      obtain rfl : a = d := Option.some.inj hd
      simpa using hpos a (by rw [hcases]; exact List.mem_cons_self)
  rw [readAfterSlashes, hfront, readFromAuthority, show isSpecialScheme "http" = true from rfl,
    htake, hdrop]

end

end Url

/-! ## Two hosts -/

section
variable {i j : Incoming} {r : Request} {rest : List Char}

theorem Incoming.request?_eq_some_iff :
    i.request? = some r ↔ ∃ url, i.url? = some url ∧
      ⟨i.method.getD "GET", url, i.headers, .object []⟩ = r := Option.map_eq_some_iff

/-- The URL of a request whose target has a slash in front. -/
theorem Incoming.url?_rooted (htarget : (i.target.getD "/").toList = '/' :: rest) :
    i.url? = Url.ofText? ("http://" ++ i.hostText ++ i.target.getD "/") := by
  unfold Incoming.url?
  dsimp only
  rw [if_pos (by rw [htarget]; rfl)]
  rfl

/-- The path and the query of a request are those of what the host value has behind its
    authority and of the target, so they are the same for two host values that have the same
    there. -/
theorem Incoming.url?_eq_of_behindAuthority {u v : Url}
    (htarget : (i.target.getD "/").toList = '/' :: rest)
    (hsame : j.target.getD "/" = i.target.getD "/")
    (hbehind : Url.behindAuthority j.hostText = Url.behindAuthority i.hostText)
    (hu : i.url? = some u) (hv : j.url? = some v) :
    u.pathname = v.pathname ∧ u.search = v.search := by
  rw [url?_rooted htarget] at hu
  rw [url?_rooted (hsame ▸ htarget), hsame] at hv
  cases hhost : Url.behindAuthority i.hostText with
  | none =>
    -- neither names an authority, so both texts are the target behind slashes
    have hnone {host : String} (h : Url.behindAuthority host = none) : Url.readHost host = [] := by
      simpa [Url.behindAuthority] using h
    rw [Url.ofText?_readHost htarget, hnone hhost] at hu
    rw [Url.ofText?_readHost htarget, hnone (hbehind.trans hhost), hu] at hv
    obtain rfl := Option.some.inj hv
    exact ⟨rfl, rfl⟩
  | some behind =>
    rw [Url.ofText?_host htarget hhost] at hu
    rw [Url.ofText?_host htarget (hbehind.trans hhost)] at hv
    obtain ⟨a, _, rfl⟩ := Option.map_eq_some_iff.mp hu
    obtain ⟨b, _, rfl⟩ := Option.map_eq_some_iff.mp hv
    refine ⟨?_, rfl⟩
    have hscheme : Url.IsHierarchic "http" := by constructor <;> decide
    have hne := (Url.segmentsAfterAuthority_settled hscheme
      (Url.Parts.of (behind ++ Url.clean (i.target.getD "/").toList)).main).2
    rw [Url.pathname, Url.path_make hne, Url.pathname, Url.path_make hne]

end

/-- Two host values with the same behind their authority give a request with a slash in front
    of its target the same path and query, so they choose the same rule and pass it on to the
    same URL. -/
theorem host_does_not_route {i j : Incoming} {r s : Request}
    (hslash : (i.target.getD "/").toList.head? = some '/')
    (htarget : j.target.getD "/" = i.target.getD "/")
    (hbehind : Url.behindAuthority j.hostText = Url.behindAuthority i.hostText)
    (hi : i.request? = some r) (hj : j.request? = some s) :
    r.url.pathname = s.url.pathname ∧ r.url.search = s.url.search ∧
      (∀ rules : RuleSet,
        rules.resolve r.canonicalPath = rules.resolve s.canonicalPath) ∧
      ∀ rule, Middleware.outbound? rule r.canonicalPath r =
        Middleware.outbound? rule s.canonicalPath s := by
  obtain ⟨rest, hrest⟩ := List.head?_eq_some_iff.mp hslash
  obtain ⟨u, hu, rfl⟩ := Incoming.request?_eq_some_iff.mp hi
  obtain ⟨v, hv, rfl⟩ := Incoming.request?_eq_some_iff.mp hj
  obtain ⟨hpath, hsearch⟩ := Incoming.url?_eq_of_behindAuthority hrest htarget hbehind hu hv
  refine ⟨hpath, hsearch, fun rules => ?_, fun rule => ?_⟩
  · simp only [Request.canonicalPath, hpath]
  · simp only [Request.canonicalPath, Middleware.outbound?, hpath, hsearch]

/-- A request for `/x` with this host value. -/
def hostIncoming (host : String) : Incoming := ⟨some "/x", some "GET", [("host", .text host)]⟩

/-- A user name and a port in a host value are no part of the path. -/
theorem userinfo_does_not_route :
    ∃ r s, (hostIncoming "b.test").request? = some r ∧
      (hostIncoming "user@a.test:8080").request? = some s ∧
      r.url.pathname = s.url.pathname ∧ r.url.search = s.url.search := by
  have hr : (hostIncoming "b.test").request? = some ⟨"GET", ⟨"http", "", "", some (.name "b.test"),
    none, .segments ["x"], none, none⟩, [("host", .text "b.test")], .object []⟩ := rfl
  have hs : (hostIncoming "user@a.test:8080").request? = some ⟨"GET", ⟨"http", "user", "",
    some (.name "a.test"), some 8080, .segments ["x"], none, none⟩,
    [("host", .text "user@a.test:8080")], .object []⟩ := rfl
  have hbehind : Url.behindAuthority (hostIncoming "b.test").hostText = some [] :=
    Url.behindAuthority_of_plain rfl rfl
  have hbehind' : Url.behindAuthority (hostIncoming "user@a.test:8080").hostText = some [] :=
    Url.behindAuthority_of_plain rfl rfl
  obtain ⟨hpath, hsearch, _⟩ :=
    host_does_not_route (i := hostIncoming "b.test") (j := hostIncoming "user@a.test:8080")
      rfl rfl (hbehind'.trans hbehind.symm) hr hs
  exact ⟨_, _, hr, hs, hpath, hsearch⟩

/-- A slash in a host value makes what follows it a part of the path. -/
theorem slash_in_host_routes :
    ¬ ∀ (i j : Incoming) (r s : Request), (i.target.getD "/").toList.head? = some '/' →
      j.target.getD "/" = i.target.getD "/" → i.request? = some r → j.request? = some s →
      r.url.pathname = s.url.pathname ∧ r.url.search = s.url.search := by
  intro h
  have hr : (hostIncoming "h").request? = some ⟨"GET", ⟨"http", "", "", some (.name "h"),
    none, .segments ["x"], none, none⟩, [("host", .text "h")], .object []⟩ := rfl
  have hs : (hostIncoming "h/admin").request? = some ⟨"GET", ⟨"http", "", "", some (.name "h"),
    none, .segments ["admin", "x"], none, none⟩, [("host", .text "h/admin")], .object []⟩ := rfl
  exact absurd (h (hostIncoming "h") (hostIncoming "h/admin") _ _ rfl rfl hr hs).1 (by decide)

end Gateway
