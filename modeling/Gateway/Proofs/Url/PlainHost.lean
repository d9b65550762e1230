import Gateway.Json
import Gateway.Proofs.Fields
import Gateway.Proofs.Number
import Gateway.Proofs.Text.Pieces
import Gateway.Proofs.Url.Characters

/- Authorities that are a plain host, with or without a port: a domain name of lowercase letters
   and dots, or an IPv4 address. Such a host holds no escape and no character that cuts an
   authority, and no label of it spells other characters. A domain name is read as it is written
   (`IsPlainDomain.read`), and the written form of an address as the address (`read_ipv4Text`);
   the authority is that host and the port behind its colon (`readAuthority_host`). -/
namespace Gateway.Url

/-- A lowercase letter or a dot. -/
def isDomainChar (c : Char) : Bool := c.isLower || c == '.'

structure IsPlainDomain (s : List Char) : Prop where
  ne_nil : s ≠ []
  chars : ∀ c ∈ s, isDomainChar c = true

/-- A character of a domain name or of an IPv4 address. -/
def isHostChar (c : Char) : Bool := isDomainChar c || c.isDigit

/-! ## The characters of a host -/

/-- A decidable property of all characters of hosts is seen by going through them. -/
theorem of_isHostChar {p : Char → Prop}
    (h : ∀ n < 0x80, isHostChar (Char.ofNat n) = true → p (Char.ofNat n)) {c : Char}
    (hc : isHostChar c = true) : p c := by
  have hlt : c.toNat < 0x80 := by
    rcases Bool.or_eq_true_iff.mp hc with hdomain | hdigit
    · rcases Bool.or_eq_true_iff.mp hdomain with hlower | hdot
      · have hle : c.val ≤ 'z'.val := of_decide_eq_true (Bool.and_eq_true_iff.mp hlower).2
        exact Nat.lt_of_le_of_lt (UInt32.le_iff_toNat_le.mp hle) (by decide)
      · rw [beq_iff_eq.mp hdot]
        decide
    · exact Nat.lt_of_le_of_lt (Fields.bounds_of_isDigit hdigit).2 (by decide)
  exact Text.forall_ascii (p := fun c => isHostChar c = true → p c) h hlt hc

theorem isHostChar_of_isDomainChar {c : Char} (h : isDomainChar c = true) : isHostChar c = true :=
  Bool.or_eq_true_iff.mpr (.inl h)

theorem of_isDomainChar {p : Char → Prop}
    (h : ∀ n < 0x80, isDomainChar (Char.ofNat n) = true → p (Char.ofNat n)) {c : Char}
    (hc : isDomainChar c = true) : p c :=
  of_isHostChar (p := fun c => isDomainChar c = true → p c) (fun n hn _ => h n hn)
    (isHostChar_of_isDomainChar hc) hc

section
variable {c : Char} (h : isHostChar c = true)
include h

theorem utf8EncodeChar_of_isHostChar : String.utf8EncodeChar c = [UInt8.ofNat c.toNat] :=
  of_isHostChar (p := fun c => String.utf8EncodeChar c = [UInt8.ofNat c.toNat]) (by decide) h

theorem toLower_of_isHostChar : (Char.ofNat (UInt8.ofNat c.toNat).toNat).toLower = c :=
  of_isHostChar (p := fun c => (Char.ofNat (UInt8.ofNat c.toNat).toNat).toLower = c) (by decide) h

theorem isForbiddenInName_of_isHostChar : isForbiddenInName c = false :=
  of_isHostChar (p := fun c => isForbiddenInName c = false) (by decide) h

/-- Nothing is escaped, and nothing cuts an authority or opens an address. -/
theorem ne_mark_of_isHostChar : c ≠ '%' ∧ c ≠ '@' ∧ c ≠ ':' ∧ c ≠ '[' ∧ c ≠ '-' :=
  of_isHostChar (p := fun c => c ≠ '%' ∧ c ≠ '@' ∧ c ≠ ':' ∧ c ≠ '[' ∧ c ≠ '-') (by decide) h

end

theorem not_digit_of_isDomainChar {c : Char} (h : isDomainChar c = true) :
    c.isDigit = false ∧ (hexValue c).all (10 ≤ ·) = true :=
  of_isDomainChar (p := fun c => c.isDigit = false ∧ (hexValue c).all (10 ≤ ·) = true) (by decide) h

/-! ## Reading digits -/

/-- Digits are read as the number that they spell. -/
theorem readBase_digits {digits : List Char} (h : ∀ c ∈ digits, c.isDigit = true) :
    readBase 10 digits = some (Json.digitsValue digits) := by
  induction digits using List.reverseRecOn with
  | nil => rfl
  | append_singleton init last ih =>
    obtain ⟨hinit, hlast⟩ := List.forall_mem_append.mp h
    have hdigit : last.isDigit = true := hlast last (List.mem_singleton_self last)
    have hlt : last.toNat - 48 < 10 := by
      have hbounds := Fields.bounds_of_isDigit hdigit
      omega
    have hread := ih hinit
    unfold readBase at hread ⊢
    unfold Json.digitsValue at hread ⊢
    rw [List.foldl_append, hread, List.foldl_append]
    simp [hexValue, hdigit, hlt]

theorem digitsValue_toDigits (n : Nat) : Json.digitsValue (Nat.toDigits 10 n) = n := by
  have hvalue := Nat.ofDigitChars_ten_toDigits (n := n)
  simp only [Nat.ofDigitChars, Nat.mul_comm 10] at hvalue
  exact hvalue

theorem readBase_toDigits (n : Nat) : readBase 10 (Nat.toDigits 10 n) = some n := by
  rw [readBase_digits fun _ => Number.isDigit_of_mem_toDigits, digitsValue_toDigits]

/-- The first digit of a number is no zero, unless it is the only one. -/
theorem head?_toDigits {n : Nat} (h : 0 < n) : (Nat.toDigits 10 n).head? ≠ some '0' := by
  induction n using Nat.strongRecOn with
  | ind n ih =>
    rcases Nat.lt_or_ge n 10 with hsmall | hlarge
    · have hdigit : ∀ n < 10, 0 < n → [n.digitChar].head? ≠ some '0' := by decide
      rw [Nat.toDigits_of_lt_base hsmall]
      exact hdigit n hsmall h
    · rw [Nat.toDigits_of_base_le (by decide) hlarge,
        List.head?_append_of_ne_nil _ Nat.toDigits_ne_nil]
      exact ih (n / 10) (by omega) (by omega)

/-! ## Reading a host -/

theorem decodeBytes_cons {c : Char} (h : c ≠ '%') (rest : List Char) :
    decodeBytes (c :: rest) = String.utf8EncodeChar c ++ decodeBytes rest := by
  rw [decodeBytes]
  intro a b more hc
  exact absurd hc h

section
variable {s : List Char}

/-- The bytes of a host stand for its characters. -/
theorem decodeBytes_of_host (h : ∀ c ∈ s, isHostChar c = true) :
    (decodeBytes s).map (fun b => (Char.ofNat b.toNat).toLower) = s := by
  induction s with
  | nil => rfl
  | cons c rest ih =>
    obtain ⟨hc, hrest⟩ := List.forall_mem_cons.mp h
    rw [decodeBytes_cons (ne_mark_of_isHostChar hc).1, utf8EncodeChar_of_isHostChar hc,
      List.singleton_append, List.map_cons, toLower_of_isHostChar hc, ih hrest]

theorem hasValidLabels_of_host (h : ∀ c ∈ s, isHostChar c = true) : hasValidLabels s = true := by
  rw [hasValidLabels, List.all_eq_true]
  intro label hlabel
  rw [Text.pieces_singleton] at hlabel
  have hmark : Label.mark.isPrefixOf label = false := by
    rw [Bool.eq_false_iff]
    intro hprefix
    have hm : '-' ∈ label := (List.isPrefixOf_iff_prefix.mp hprefix).subset (by decide)
    have hchar := h '-' (Text.mem_of_mem_splitOn hlabel '-' hm).1
    exact absurd hchar (by decide)
  rw [Label.isValid, hmark]
  rfl

/-- A plain host is an address if its last part is a number, and a name if it is not. -/
theorem read_of_host (hne : s ≠ []) (h : ∀ c ∈ s, isHostChar c = true) :
    Host.read true s =
      if endsInNumber s then (readIpv4 s).map .ipv4 else some (.name (String.ofList s)) := by
  obtain ⟨c, rest, rfl⟩ := List.exists_cons_of_ne_nil hne
  have hopen : c ≠ '[' := (ne_mark_of_isHostChar (h c List.mem_cons_self)).2.2.2.1
  have hforbidden : (c :: rest).any isForbiddenInName = false := by
    rw [List.any_eq_false]
    intro a ha
    rw [isForbiddenInName_of_isHostChar (h a ha)]
    decide
  have hread : Host.read true (c :: rest) = readName (c :: rest) := by
    rw [Host.read]
    · rfl
    · simp [hopen]
  rw [hread, readName]
  simp [decodeBytes_of_host h, hforbidden, hasValidLabels_of_host h]

/-! ### Domain names -/

/-- Letters are no number. -/
theorem readBase_of_domain {c : Char} (h : isDomainChar c = true) (rest : List Char) :
    readBase 10 (c :: rest) = none := by
  have hnone : ∀ s : List Char, s.foldl (fun value c => value.bind fun n => (hexValue c).bind fun d =>
      if d < 10 then some (n * 10 + d) else none) (none : Option Nat) = none := by
    intro s
    induction s with
    | nil => rfl
    | cons a more ih => exact ih
  have hfirst : ((hexValue c).bind fun d => if d < 10 then some (0 * 10 + d) else none) = none := by
    have hlarge := (not_digit_of_isDomainChar h).2
    cases hvalue : hexValue c with
    | none => rfl
    | some d =>
      rw [hvalue] at hlarge
      have hd : ¬ d < 10 := by simpa using hlarge
      simp [hd]
  rw [readBase, List.foldl_cons, Option.bind_some, hfirst]
  exact hnone rest

theorem endsInNumber_of_domain (h : ∀ c ∈ s, isDomainChar c = true) : endsInNumber s = false := by
  unfold endsInNumber
  split
  · next part hpart =>
    have hpiece : part ∈ s.splitOn '.' := by
      rw [← Text.pieces_singleton]
      have hm := List.mem_of_getLast? hpart
      unfold dottedParts at hm
      dsimp only at hm
      split at hm
      · exact List.dropLast_subset _ hm
      · exact hm
    cases part with
    | nil => rfl
    | cons c rest =>
      have hc := h c (Text.mem_of_mem_splitOn hpiece c List.mem_cons_self).1
      have hzero : c ≠ '0' := by
        rintro rfl
        exact absurd hc (by decide)
      have hpart : ipv4Part (c :: rest) = none := by
        rw [ipv4Part]
        · exact readBase_of_domain hc rest
        all_goals simp [hzero]
      simp [(not_digit_of_isDomainChar hc).1, hpart]
  · rfl

theorem IsPlainDomain.isHostChar (h : IsPlainDomain s) {c : Char} (hc : c ∈ s) :
    isHostChar c = true :=
  isHostChar_of_isDomainChar (h.chars c hc)

theorem IsPlainDomain.read (h : IsPlainDomain s) :
    Host.read true s = some (.name (String.ofList s)) := by
  rw [read_of_host h.ne_nil fun _ => h.isHostChar, endsInNumber_of_domain h.chars]
  rfl

end

/-! ### IPv4 addresses -/

/-- A number in decimal is read as such: a zero in front would make it one of another base. -/
theorem ipv4Part_decimalText (n : Nat) : ipv4Part (decimalText n) = some n := by
  rcases Nat.eq_zero_or_pos n with rfl | hn
  · rfl
  · have hread := readBase_toDigits n
    have hfirst := head?_toDigits hn
    obtain ⟨c, rest, hdigits⟩ : ∃ c rest, Nat.toDigits 10 n = c :: rest :=
      List.exists_cons_of_ne_nil Nat.toDigits_ne_nil
    rw [hdigits] at hread hfirst
    have hzero : c ≠ '0' := by simpa using hfirst
    rw [decimalText, hdigits, ipv4Part]
    · exact hread
    all_goals simp [hzero]

section
variable {address : Nat}

/-- The bytes of an address, the highest first. -/
def addressBytes (address : Nat) : List Nat :=
  [address / Nat.pow 2 24, address / Nat.pow 2 16 % 256, address / Nat.pow 2 8 % 256, address % 256]

theorem ipv4Text_eq_intercalate (address : Nat) :
    ipv4Text address = ['.'].intercalate ((addressBytes address).map decimalText) := by
  simp [ipv4Text, addressBytes, List.intercalate_cons_cons]

theorem isHostChar_of_mem_ipv4Text {c : Char} (h : c ∈ ipv4Text address) : isHostChar c = true := by
  have hdigit {n : Nat} (hc : c ∈ decimalText n) : isHostChar c = true :=
    Bool.or_eq_true_iff.mpr (.inr (Number.isDigit_of_mem_toDigits hc))
  simp only [ipv4Text, List.mem_append, List.mem_cons] at h
  rcases h with ((hc | rfl | hc) | rfl | hc) | rfl | hc
  all_goals first | exact hdigit hc | rfl

theorem dottedParts_ipv4Text :
    dottedParts (ipv4Text address) = (addressBytes address).map decimalText := by
  have hpieces : Text.pieces ['.'] (ipv4Text address) = (addressBytes address).map decimalText := by
    rw [ipv4Text_eq_intercalate]
    refine Text.pieces_intercalate (by simp [addressBytes]) fun part hpart hdot => ?_
    obtain ⟨n, -, rfl⟩ := List.mem_map.mp hpart
    cases Number.isDigit_of_mem_toDigits hdot
  have hlast : decimalText (address % 256) ≠ [] := Nat.toDigits_ne_nil
  rw [dottedParts, hpieces]
  simp [addressBytes, hlast]

theorem endsInNumber_ipv4Text : endsInNumber (ipv4Text address) = true := by
  have hne : decimalText (address % 256) ≠ [] := Nat.toDigits_ne_nil
  have hdigits : (decimalText (address % 256)).all Char.isDigit = true :=
    List.all_eq_true.mpr fun _ => Number.isDigit_of_mem_toDigits
  rw [endsInNumber, dottedParts_ipv4Text]
  simp [addressBytes, hne, hdigits]

/-- The written form of an address is read as that address. -/
theorem readIpv4_ipv4Text (h : address < Nat.pow 2 32) :
    readIpv4 (ipv4Text address) = some address := by
  have hparts : ((addressBytes address).map decimalText).mapM ipv4Part =
      some (addressBytes address) := by
    simp [addressBytes, ipv4Part_decimalText]
  rw [readIpv4, dottedParts_ipv4Text, hparts, Option.bind_some, addressBytes, ipv4OfParts]
  simp only [Nat.pow_eq] at h ⊢
  rw [if_pos (by omega)]
  congr 1
  omega

theorem read_ipv4Text (h : address < Nat.pow 2 32) :
    Host.read true (ipv4Text address) = some (.ipv4 address) := by
  have hne : ipv4Text address ≠ [] := by simp [ipv4Text]
  rw [read_of_host hne fun _ => isHostChar_of_mem_ipv4Text, endsInNumber_ipv4Text,
    readIpv4_ipv4Text h]
  rfl

end

/-! ## Reading a port -/

/-- Digits of a number that a port can have. -/
structure IsPortText (digits : List Char) : Prop where
  isDigit : ∀ c ∈ digits, c.isDigit = true
  le : Json.digitsValue digits ≤ 65535

/-- The port that digits stand for, unless it is the default; no digits stand for the default. -/
def keptPort (scheme : String) (digits : List Char) : Option Nat :=
  if digits = [] ∨ defaultPort? scheme = some (Json.digitsValue digits) then none
  else some (Json.digitsValue digits)

theorem IsPortText.readPort {digits : List Char} (h : IsPortText digits) (scheme : String) :
    readPort scheme digits = some (keptPort scheme digits) := by
  by_cases hempty : digits = []
  · subst hempty
    simp [Url.readPort, keptPort]
  · have hlt : Json.digitsValue digits < 65536 := Nat.lt_succ_of_le h.le
    have hread : Url.readPort scheme digits = (readBase 10 digits).bind fun n =>
        if n < 65536 then some (if defaultPort? scheme = some n then none else some n) else none := by
      rw [Url.readPort, if_neg (by simpa using hempty), if_pos (List.all_eq_true.mpr h.isDigit)]
    rw [hread, readBase_digits h.isDigit, Option.bind_some, if_pos hlt]
    simp [keptPort, hempty]

theorem isPortText_toDigits {n : Nat} (h : n ≤ 65535) : IsPortText (Nat.toDigits 10 n) where
  isDigit _ := Number.isDigit_of_mem_toDigits
  le := by rwa [digitsValue_toDigits]

/-! ## Reading an authority -/

theorem cutAtSign_of_not_mem {s : List Char} (h : '@' ∉ s) : cutAtSign s = none := by
  have hnone : s.reverse.dropWhile (· != '@') = [] := by
    refine List.dropWhile_eq_nil_iff.mpr fun c hc => ?_
    have hne : c ≠ '@' := fun heq => h (heq ▸ List.mem_reverse.mp hc)
    simpa using hne
  rw [cutAtSign, hnone]

/-- A colon is looked for behind what holds none and opens no address. -/
theorem cutAtPort_append {s : List Char} (h : ∀ c ∈ s, c ≠ ':' ∧ c ≠ '[') (t : List Char) :
    cutAtPort false (s ++ t) = (s ++ (cutAtPort false t).1, (cutAtPort false t).2) := by
  induction s with
  | nil => rfl
  | cons c rest ih =>
    obtain ⟨⟨hcolon, hopen⟩, hrest⟩ := List.forall_mem_cons.mp h
    have hbracket : (c == '[' || (false && c != ']')) = false := by simpa using hopen
    rw [List.cons_append, cutAtPort, hbracket, ih hrest]
    simp [hcolon]

/-- A part behind its mark, if there is one. -/
def marked (mark : Char) (part : Option (List Char)) : List Char := (part.map (mark :: ·)).getD []

theorem isDigit_of_mem_marked {port : Option (List Char)} (h : ∀ digits ∈ port, IsPortText digits)
    {c : Char} (hc : c ∈ marked ':' port) : c = ':' ∨ c.isDigit = true := by
  cases port with
  | none => cases hc
  | some digits => exact (List.mem_cons.mp hc).imp_right ((h digits rfl).isDigit c)

theorem cutAtPort_marked (port : Option (List Char)) : cutAtPort false (marked ':' port) = ([], port) := by
  cases port <;> simp [marked, cutAtPort]

theorem isSegment_host {host : List Char} (hchars : ∀ c ∈ host, isHostChar c = true)
    {port : Option (List Char)} (hport : ∀ digits ∈ port, IsPortText digits) :
    IsSegment (host ++ marked ':' port) := by
  intro c hc
  rcases List.mem_append.mp hc with hc | hc
  · exact of_isHostChar (p := fun c => isSegmentChar c = true) (by decide) (hchars c hc)
  · rcases isDigit_of_mem_marked hport hc with rfl | hdigit
    · decide
    · exact isSegmentChar_of_isAlphanum (by simp [Char.isAlphanum, hdigit])

/-- A plain host with a port is the authority of the host that it is read as and of that port. -/
theorem readAuthority_host {scheme : String} (hs : isSpecialScheme scheme = true)
    {host : List Char} (hchars : ∀ c ∈ host, isHostChar c = true) {h : Host}
    (hhost : Host.read true host = some h) {port : Option (List Char)}
    (hport : ∀ digits ∈ port, IsPortText digits) :
    readAuthority scheme (host ++ marked ':' port) =
      some ⟨"", "", some h, port.bind (keptPort scheme)⟩ := by
  have hplain : ∀ c ∈ host, c ≠ ':' ∧ c ≠ '[' := by
    intro c hc
    obtain ⟨-, -, hcolon, hopen, -⟩ := ne_mark_of_isHostChar (hchars c hc)
    exact ⟨hcolon, hopen⟩
  have hout : '@' ∉ host ++ marked ':' port := by
    intro hm
    rcases List.mem_append.mp hm with hm | hm
    · exact (ne_mark_of_isHostChar (hchars _ hm)).2.1 rfl
    · rcases isDigit_of_mem_marked hport hm with heq | hdigit
      · cases heq
      · cases hdigit
  have hread : readPort scheme (port.getD []) = some (port.bind (keptPort scheme)) := by
    cases port with
    | none => rfl
    | some digits => exact (hport digits rfl).readPort scheme
  have hempty : host.isEmpty = false := by
    cases host with
    | nil => cases hhost
    | cons c rest => rfl
  rw [readAuthority, cutAtSign_of_not_mem hout, readHostPort, cutAtPort_append hplain,
    cutAtPort_marked, hs]
  simp [hempty, hhost, hread]

/-- A plain domain name with a port is the authority of that host and that port. -/
theorem readAuthority_plain {scheme : String} (hs : isSpecialScheme scheme = true)
    {domain : List Char} (hdomain : IsPlainDomain domain) {port : Option (List Char)}
    (hport : ∀ digits ∈ port, IsPortText digits) :
    readAuthority scheme (domain ++ marked ':' port) =
      some ⟨"", "", some (.name (String.ofList domain)), port.bind (keptPort scheme)⟩ :=
  readAuthority_host hs (fun _ => hdomain.isHostChar) hdomain.read hport

end Gateway.Url
