import Gateway.Proofs.Json
import Gateway.Proofs.Loading

/- Which contents of a file are accepted. The faults of the contents are listed in the order in
   which they are looked for (`FileConfig.faults`). A file is read if it has none, which is the
   documented shape (`FileConfig.faults_eq_nil_iff`), and else its first fault is the error
   (`FileConfig.failsFirst_ofJson`). -/
namespace Gateway

/-! ## Steps that look for faults -/

theorem Reported.bind_log {ε α β : Type} {x : Reported ε α} {f : α → Reported ε β} {a : α}
    (h : x.result = .ok a) : (x >>= f).log = x.log ++ (f a).log := by
  change (Reported.bind x f).log = _
  rw [Reported.bind]
  simp only [h]

/-- A step fails with the first of the faults, and if there is none it does not fail. -/
def FailsFirst {ε α : Type} (result : Except ε α) (faults : List ε) : Prop :=
  ∀ fault, result = .error fault ↔ faults.head? = some fault

namespace FailsFirst
variable {ε α β : Type} {faults more : List ε}

theorem of_ok (a : α) : FailsFirst (.ok a : Except ε α) [] := by
  simp [FailsFirst]

theorem of_error (e : ε) : FailsFirst (.error e : Except ε α) (e :: more) := by
  simp [FailsFirst]

theorem exists_ok_iff {result : Except ε α} (h : FailsFirst result faults) :
    (∃ a, result = .ok a) ↔ faults = [] := by
  cases result with
  | ok a =>
    have hnone : faults.head? = none := by
      refine Option.eq_none_iff_forall_ne_some.mpr fun fault hfault => ?_
      cases (h fault).mpr hfault
    simpa using List.head?_eq_none_iff.mp hnone
  | error e =>
    have hsome := (h e).mp rfl
    simp only [reduceCtorEq, exists_false, false_iff]
    rintro rfl
    cases hsome

theorem map {result : Except ε α} (h : FailsFirst result faults) (g : α → β) :
    FailsFirst (result.map g) faults := by
  intro fault
  rw [← h fault]
  cases result <;> simp [Except.map]

/-- The faults of one step come before those of the next one. -/
theorem bind {x : Reported ε α} {f : α → Reported ε β} (hx : FailsFirst x.result faults)
    (hf : ∀ a, FailsFirst (f a).result more) : FailsFirst (x >>= f).result (faults ++ more) := by
  intro fault
  change (Reported.bind x f).result = _ ↔ _
  rw [Reported.bind]
  cases hresult : x.result with
  | ok a =>
    obtain rfl := hx.exists_ok_iff.mp ⟨a, hresult⟩
    exact hf a fault
  | error e =>
    have hhead := (hx e).mp hresult
    rw [List.head?_append, hhead]
    simp

theorem bind_pure {x : Reported ε α} (hx : FailsFirst x.result faults) (g : α → β) :
    FailsFirst (x >>= fun a => pure (g a)).result faults := by
  have hbind := hx.bind (f := fun a => pure (g a)) fun a => .of_ok (g a)
  rwa [List.append_nil] at hbind

end FailsFirst

namespace FileConfig

/-! ## The faults of a file -/

/-- The faults of a member, if it is there. -/
def faultsOf (check : Json → List ConfigFault) (member : Option Json) : List ConfigFault :=
  member.toList.flatMap check

def hostFaults : Json → List ConfigFault
  | .text _ => []
  | other => [.hostKind other.kind]

def portFaults : Json → List ConfigFault
  | .number port => if Config.isPort port then [] else [.badPort]
  | _ => [.badPort]

/-- The faults of the headers: one for each value that is no text, in the order of the names. -/
def headerFaults (members : Fields Json) : List ConfigFault :=
  members.flatMap fun
    | (_, .text _) => []
    | (name, _) => [.badHeader name]

def headersFaults : Json → List ConfigFault
  | .object members => headerFaults members
  | other => [.headersKind other.kind]

def proxyFaults : Json → List ConfigFault
  | .object _ => []
  | other => [.proxyKind other.kind]

def serverFaults (server : Fields Json) : List ConfigFault :=
  faultsOf hostFaults (Json.member? server "host") ++
    (faultsOf portFaults (Json.member? server "port") ++
      (faultsOf headersFaults (Json.member? server "headers") ++
        faultsOf proxyFaults (Json.member? server "proxy")))

/-- Everything that is wrong with the contents of a file. -/
def faults : Json → List ConfigFault
  | .object root =>
    match Json.member? root "server" with
    | some (.object server) => serverFaults server
    | _ => [.noServer]
  | other => [.rootKind other.kind]

/-! ## The documented shape -/

/-- Of the members of the object `server` each that is there has the documented kind. -/
structure IsDocumentedServer (server : Fields Json) : Prop where
  host : ∀ value ∈ Json.member? server "host", ∃ host, value = .text host
  port : ∀ value ∈ Json.member? server "port",
    ∃ port k, value = .number port ∧ port.toNat? = some k ∧ k ≤ 65535
  headers : ∀ value ∈ Json.member? server "headers",
    ∃ members, value = .object members ∧ ∀ member ∈ members, ∃ text, member.2 = .text text
  proxy : ∀ value ∈ Json.member? server "proxy", ∃ members, value = .object members

/-- The contents of a file are an object with an object `server`. -/
def IsDocumented (raw : Json) : Prop :=
  ∃ root server, raw = .object root ∧ Json.member? root "server" = some (.object server) ∧
    IsDocumentedServer server

theorem faultsOf_eq_nil_iff {check : Json → List ConfigFault} {member : Option Json} :
    faultsOf check member = [] ↔ ∀ value ∈ member, check value = [] := by
  cases member <;> simp [faultsOf]

section
variable {value : Json}

theorem hostFaults_eq_nil_iff : hostFaults value = [] ↔ ∃ host, value = .text host := by
  cases value <;> simp [hostFaults]

theorem portFaults_eq_nil_iff : portFaults value = [] ↔
    ∃ port k, value = .number port ∧ port.toNat? = some k ∧ k ≤ 65535 := by
  cases value with
  | number port => simp [portFaults, Config.isPort_iff]
  | _ => simp [portFaults]

theorem headerFaults_eq_nil_iff {members : Fields Json} :
    headerFaults members = [] ↔ ∀ member ∈ members, ∃ text, member.2 = .text text := by
  rw [headerFaults, List.flatMap_eq_nil_iff]
  refine forall₂_congr fun member _ => ?_
  obtain ⟨name, value⟩ := member
  cases value <;> simp

theorem headersFaults_eq_nil_iff : headersFaults value = [] ↔
    ∃ members, value = .object members ∧ ∀ member ∈ members, ∃ text, member.2 = .text text := by
  cases value with
  | object members => simp [headersFaults, headerFaults_eq_nil_iff]
  | _ => simp [headersFaults]

theorem proxyFaults_eq_nil_iff : proxyFaults value = [] ↔ ∃ members, value = .object members := by
  cases value <;> simp [proxyFaults]

end

theorem serverFaults_eq_nil_iff {server : Fields Json} :
    serverFaults server = [] ↔ IsDocumentedServer server := by
  simp only [serverFaults, List.append_eq_nil_iff, faultsOf_eq_nil_iff, hostFaults_eq_nil_iff,
    portFaults_eq_nil_iff, headersFaults_eq_nil_iff, proxyFaults_eq_nil_iff]
  exact ⟨fun ⟨host, port, headers, proxy⟩ => ⟨host, port, headers, proxy⟩,
    fun ⟨host, port, headers, proxy⟩ => ⟨host, port, headers, proxy⟩⟩

theorem faults_eq_nil_iff {raw : Json} : faults raw = [] ↔ IsDocumented raw := by
  unfold faults IsDocumented
  split
  · next root =>
    split
    · next server hserver => simp [serverFaults_eq_nil_iff, hserver]
    · next hserver =>
      simp only [List.cons_ne_nil, Json.object.injEq, false_iff]
      rintro ⟨_, server, rfl, h, -⟩
      exact hserver server h
  · next hroot =>
    simp only [List.cons_ne_nil, false_iff]
    rintro ⟨root, -, rfl, -⟩
    exact hroot root rfl

/-! ## The first fault is the error -/

section
variable (member : Option Json)

theorem failsFirst_readHost : FailsFirst (readHost member) (faultsOf hostFaults member) := by
  unfold readHost
  split
  · exact .of_ok _
  · exact .of_ok _
  · next value hvalue =>
    cases value with
    | text host => exact absurd rfl (hvalue host)
    | _ => exact .of_error _

theorem failsFirst_readPort : FailsFirst (readPort member) (faultsOf portFaults member) := by
  unfold readPort
  split
  · exact .of_ok _
  · next port =>
    by_cases hport : Config.isPort port = true
    · simpa [faultsOf, portFaults, hport] using FailsFirst.of_ok _
    · simpa [faultsOf, portFaults, hport] using FailsFirst.of_error _
  · next value hvalue =>
    cases value with
    | number port => exact absurd rfl (hvalue port)
    | _ => exact .of_error _

theorem failsFirst_readHeaderPairs (members : Fields Json) :
    FailsFirst (readHeaderPairs members) (headerFaults members) := by
  fun_induction readHeaderPairs members with
  | case1 => exact .of_ok _
  | case2 name value rest ih => exact ih.map _
  | case3 name value rest hvalue =>
    cases value with
    | text text => exact absurd rfl (hvalue text)
    | _ => exact .of_error _

theorem failsFirst_readHeaders : FailsFirst (readHeaders member) (faultsOf headersFaults member) := by
  unfold readHeaders
  split
  · exact .of_ok _
  · next members => simpa [faultsOf, headersFaults] using (failsFirst_readHeaderPairs members).map _
  · next value hvalue =>
    cases value with
    | object members => exact absurd rfl (hvalue members)
    | _ => exact .of_error _

theorem failsFirst_readProxy :
    FailsFirst (readProxy member).result (faultsOf proxyFaults member) := by
  unfold readProxy
  split
  · exact .of_ok _
  · exact .of_ok _
  · next value hvalue =>
    cases value with
    | object members => exact absurd rfl (hvalue members)
    | _ => exact .of_error _

end

theorem failsFirst_ofServer (server : Fields Json) :
    FailsFirst (ofServer server).result (serverFaults server) := by
  refine .bind (failsFirst_readHost _) fun host => ?_
  refine .bind (failsFirst_readPort _) fun port => ?_
  refine .bind (failsFirst_readHeaders _) fun headers => ?_
  exact .bind_pure (failsFirst_readProxy _) _

theorem failsFirst_ofJson (raw : Json) : FailsFirst (ofJson raw).result (faults raw) := by
  cases raw with
  | object root =>
    unfold ofJson faults
    dsimp only
    cases Json.member? root "server" with
    | none => exact .of_error _
    | some value =>
      cases value with
      | object server => exact failsFirst_ofServer server
      | _ => exact .of_error _
  | _ => exact .of_error _

/-! ## What is kept of a file -/

/-- The headers are those of the file, with their names, values and order, but for the one name that
    cannot be assigned. -/
inductive KeepsHeaders : Option Json → Option (Fields String) → Prop
  | absent : KeepsHeaders none none
  | present (members : Fields Json) (headers : Fields String)
      (hheaders : headers.map (fun header => (header.1, Json.text header.2)) =
        members.filter fun member => member.1 ≠ "__proto__") :
      KeepsHeaders (some (.object members)) (some headers)

/-- The entries are those of the object `proxy`, and so is what is reported. -/
inductive KeepsProxy : Option Json → Option (List RuleEntry) → Log → Prop
  | absent : KeepsProxy none none []
  | present (members : Fields Json) :
      KeepsProxy (some (.object members)) (some (RuleEntry.ofMembers members).1)
        (RuleEntry.ofMembers members).2

/-- There is a field for each member that is there, and it has the value of the member. -/
structure Keeps (server : Fields Json) (file : FileConfig) (log : Log) : Prop where
  host : Json.member? server "host" = file.host.map .text
  port : Json.member? server "port" = file.port.map .number
  headers : KeepsHeaders (Json.member? server "headers") file.headers
  proxy : KeepsProxy (Json.member? server "proxy") file.proxy log

section
variable {member : Option Json}

theorem keepsHeaders_of_readHeaders {headers : Option (Fields String)}
    (hordered : ∀ value ∈ member, value.IsOrdered) (h : readHeaders member = .ok headers) :
    KeepsHeaders member headers := by
  unfold readHeaders at h
  split at h
  · cases h
    exact .absent
  · next members =>
    cases hpairs : readHeaderPairs members with
    | error e =>
      rw [hpairs] at h
      cases h
    | ok pairs =>
      rw [hpairs] at h
      cases h
      obtain rfl := readHeaderPairs_eq_ok hpairs
      have hlisted : Fields.IsListed pairs := by
        cases hordered _ rfl with
        | object hmembers _ => exact List.pairwise_map.mp hmembers
      refine .present _ _ ?_
      rw [hlisted.foldl_assign_nil, List.filter_map]
      rfl
  · cases h

theorem keepsProxy_of_readProxy {proxy : Option (List RuleEntry)}
    (h : (readProxy member).result = .ok proxy) :
    KeepsProxy member proxy (readProxy member).log := by
  unfold readProxy at h ⊢
  split at h
  · cases h
    exact .absent
  · next members =>
    cases h
    have hlog : (readProxy (some (.object members))).log = (RuleEntry.ofMembers members).2 :=
      List.append_nil _
    exact hlog ▸ .present members
  · cases h

end

theorem keeps_of_ofServer {server : Fields Json} {file : FileConfig}
    (hserver : Json.IsOrdered (.object server)) (h : (ofServer server).result = .ok file) :
    Keeps server file (ofServer server).log := by
  obtain ⟨host, hhost, h⟩ := Reported.bind_result_eq_ok_iff.mp h
  obtain ⟨port, hport, h⟩ := Reported.bind_result_eq_ok_iff.mp h
  obtain ⟨headers, hheaders, h⟩ := Reported.bind_result_eq_ok_iff.mp h
  obtain ⟨proxy, hproxy, h⟩ := Reported.bind_result_eq_ok_iff.mp h
  cases h
  have hlog : (ofServer server).log = (readProxy (Json.member? server "proxy")).log := by
    rw [ofServer, Reported.bind_log hhost, Reported.bind_log hport, Reported.bind_log hheaders,
      Reported.bind_log hproxy]
    exact List.append_nil _
  rw [hlog]
  exact ⟨readHost_eq_ok hhost, (readPort_eq_ok hport).1,
    keepsHeaders_of_readHeaders (fun value hvalue => hserver.of_member? hvalue) hheaders,
    keepsProxy_of_readProxy hproxy⟩

theorem keeps_of_ofJson {raw : Json} {file : FileConfig} (hraw : raw.IsOrdered)
    (h : (ofJson raw).result = .ok file) :
    ∃ root server, raw = .object root ∧ Json.member? root "server" = some (.object server) ∧
      Keeps server file (ofJson raw).log := by
  obtain ⟨root, server, rfl, hserver, heq⟩ := ofJson_of_ok h
  rw [heq] at h ⊢
  exact ⟨root, server, rfl, hserver, keeps_of_ofServer (hraw.of_member? hserver) h⟩

/-- Exactly the documented shape is accepted, whatever the contents of a file are. Anything else is
    rejected for its first fault with nothing reported, and what is accepted is kept as it is. -/
theorem ofJson_accepts_documented {raw : Json} (hraw : raw.IsOrdered) :
    ((∃ file, (ofJson raw).result = .ok file) ↔ IsDocumented raw) ∧
    (∀ fault, (ofJson raw).result = .error fault ↔ (faults raw).head? = some fault) ∧
    (∀ fault, (ofJson raw).result = .error fault → (ofJson raw).log = []) ∧
    ∀ file, (ofJson raw).result = .ok file →
      ∃ root server, raw = .object root ∧ Json.member? root "server" = some (.object server) ∧
        Keeps server file (ofJson raw).log :=
  ⟨(failsFirst_ofJson raw).exists_ok_iff.trans faults_eq_nil_iff, failsFirst_ofJson raw,
    quiet_ofJson raw, fun _ => keeps_of_ofJson hraw⟩

/-- Headers of a file, one of them with the name that cannot be assigned. -/
def reservedHeader : Fields Json := [("7", .text "a"), ("b", .text "c"), ("__proto__", .text "d")]

theorem reservedHeader_accepted :
    let server : Fields Json := [("port", .number 80), ("headers", .object reservedHeader)]
    let raw : Json := .object [("server", .object server)]
    let file : FileConfig := ⟨none, some 80, some [("7", "a"), ("b", "c")], none⟩
    raw.IsOrdered ∧ (ofJson raw).result = .ok file ∧ IsDocumented raw ∧
      ∃ root server, raw = .object root ∧ Json.member? root "server" = some (.object server) ∧
        Keeps server file (ofJson raw).log := by
  intro server raw file
  have hheaders : Json.IsOrdered (.object reservedHeader) :=
    .object (by decide) (by simp [reservedHeader, Json.IsOrdered.text])
  have hserver : Json.IsOrdered (.object server) :=
    .object (by decide) (by simp [server, hheaders, Json.IsOrdered.number])
  have hraw : raw.IsOrdered := .object (by decide) (by simp [hserver])
  have hresult : (ofJson raw).result = .ok file := rfl
  obtain ⟨haccepted, -, -, hkept⟩ := ofJson_accepts_documented hraw
  exact ⟨hraw, hresult, haccepted.mp ⟨file, hresult⟩, hkept file hresult⟩

end FileConfig

end Gateway
