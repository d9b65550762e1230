import Gateway.Proofs.Url.PlainHost

/- IPv6 addresses without their brackets. Such a text holds nothing but hexadecimal digits, colons
   and dots (`isAddressChar_of_readIpv6`), and two colons or more (`two_le_count_of_readIpv6`). An
   authority is cut at its first colon, and what follows must be a port, so a text with two colons
   and no brackets is no authority (`readAuthority_of_colons`). -/
namespace Gateway.Url

/-- A hexadecimal digit, a colon or a dot. -/
def isAddressChar (c : Char) : Bool := (hexValue c).isSome || c == ':' || c == '.'

theorem toNat_lt_of_hexValue {c : Char} (h : (hexValue c).isSome) : c.toNat < 0x80 := by
  unfold hexValue at h
  split at h
  · next hdigit => exact Nat.lt_of_le_of_lt (Fields.bounds_of_isDigit hdigit).2 (by decide)
  · split at h
    · next hlower => exact Nat.lt_of_le_of_lt (UInt32.le_iff_toNat_le.mp hlower.2) (by decide)
    · split at h
      · next hupper => exact Nat.lt_of_le_of_lt (UInt32.le_iff_toNat_le.mp hupper.2) (by decide)
      · cases h

theorem isAddressChar_of_hexValue {c : Char} (h : (hexValue c).isSome) : isAddressChar c = true := by
  simp [isAddressChar, h]

/-- Nothing in an address ends an authority, closes credentials or opens a bracket. -/
theorem plain_of_isAddressChar {c : Char} (h : isAddressChar c = true) :
    isSegmentChar c = true ∧ c ≠ '@' ∧ c ≠ '[' := by
  have hlt : c.toNat < 0x80 := by
    simp only [isAddressChar, Bool.or_eq_true, beq_iff_eq] at h
    rcases h with (hvalue | rfl) | rfl
    · exact toNat_lt_of_hexValue hvalue
    · decide
    · decide
  exact Text.forall_ascii
    (p := fun c => isAddressChar c = true → isSegmentChar c = true ∧ c ≠ '@' ∧ c ≠ '[')
    (by decide) hlt h

section
variable {s : List Char}

/-! ## What an address holds -/

theorem isSome_hexValue_of_readBase {base n : Nat} (h : readBase base s = some n) :
    ∀ c ∈ s, (hexValue c).isSome := by
  induction s using List.reverseRecOn generalizing n with
  | nil => simp
  | append_singleton init last ih =>
    rw [readBase, List.foldl_append] at h
    obtain ⟨value, hinit, hlast⟩ := Option.bind_eq_some_iff.mp h
    obtain ⟨digit, hdigit, -⟩ := Option.bind_eq_some_iff.mp hlast
    intro c hc
    rcases List.mem_append.mp hc with hc | hc
    · exact ih hinit c hc
    · rw [List.mem_singleton.mp hc, hdigit]
      rfl

theorem isSome_hexValue_of_ipv6Piece {n : Nat} (h : ipv6Piece s = some n) :
    ∀ c ∈ s, (hexValue c).isSome := by
  rw [ipv6Piece] at h
  split at h
  · cases h
  · exact isSome_hexValue_of_readBase h

theorem isSome_hexValue_of_decimalByte {n : Nat} (h : decimalByte s = some n) :
    ∀ c ∈ s, (hexValue c).isSome := by
  rw [decimalByte] at h
  split at h
  · cases h
  · obtain ⟨value, hvalue, -⟩ := Option.bind_eq_some_iff.mp h
    exact isSome_hexValue_of_readBase hvalue

theorem exists_of_mapM_eq_some {α β : Type} {f : α → Option β} {texts : List α} {values : List β}
    (h : texts.mapM f = some values) : ∀ a ∈ texts, ∃ b, f a = some b := by
  induction texts generalizing values with
  | nil => simp
  | cons first rest ih =>
    rw [List.mapM_cons] at h
    obtain ⟨value, hfirst, hmore⟩ := Option.bind_eq_some_iff.mp h
    obtain ⟨more, hrest, -⟩ := Option.bind_eq_some_iff.mp hmore
    exact List.forall_mem_cons.mpr ⟨⟨value, hfirst⟩, ih hrest⟩

theorem isAddressChar_of_embeddedIpv4 {pieces : List Nat} (h : embeddedIpv4 s = some pieces) :
    ∀ c ∈ s, isAddressChar c = true := by
  intro c hc
  by_cases hdot : c = '.'
  · rw [hdot]
    rfl
  · rw [embeddedIpv4, Text.pieces_singleton] at h
    split at h
    · next hbytes =>
      obtain ⟨part, hpart, hcpart⟩ := Text.exists_mem_splitOn hc hdot
      obtain ⟨byte, hbyte⟩ := exists_of_mapM_eq_some hbytes part hpart
      exact isAddressChar_of_hexValue (isSome_hexValue_of_decimalByte hbyte c hcpart)
    · cases h

theorem length_of_embeddedIpv4 {pieces : List Nat} (h : embeddedIpv4 s = some pieces) :
    pieces.length = 2 := by
  rw [embeddedIpv4] at h
  split at h
  · cases h
    rfl
  · cases h

/-- Each part of a side is one piece, but for four bytes at the end, which are two. -/
theorem ipv6Side_eq_some {last : Bool} {parts : List (List Char)} {pieces : List Nat}
    (h : ipv6Side last parts = some pieces) :
    pieces.length ≤ parts.length + 1 ∧ ∀ part ∈ parts, ∀ c ∈ part, isAddressChar c = true := by
  induction parts using ipv6Side.induct last generalizing pieces with
  | case1 =>
    cases h
    simp
  | case2 part hembedded =>
    rw [ipv6Side, if_pos hembedded] at h
    rw [length_of_embeddedIpv4 h, List.forall_mem_singleton]
    exact ⟨Nat.le_refl 2, isAddressChar_of_embeddedIpv4 h⟩
  | case3 part hembedded =>
    rw [ipv6Side, if_neg hembedded] at h
    obtain ⟨n, hpiece, rfl⟩ := Option.map_eq_some_iff.mp h
    rw [List.forall_mem_singleton]
    exact ⟨by simp, fun c hc => isAddressChar_of_hexValue (isSome_hexValue_of_ipv6Piece hpiece c hc)⟩
  | case4 part rest hrest ih =>
    rw [ipv6Side] at h
    · obtain ⟨n, hpiece, hmore⟩ := Option.bind_eq_some_iff.mp h
      obtain ⟨more, hside, hcons⟩ := Option.bind_eq_some_iff.mp hmore
      cases hcons
      obtain ⟨hlength, hchars⟩ := ih hside
      refine ⟨by simpa using hlength, List.forall_mem_cons.mpr ⟨fun c hc => ?_, hchars⟩⟩
      exact isAddressChar_of_hexValue (isSome_hexValue_of_ipv6Piece hpiece c hc)
    · exact hrest

/-- What the parts between colons hold, the text holds, but for the colons. -/
theorem isAddressChar_of_colonParts
    (h : ∀ part ∈ colonParts s, ∀ c ∈ part, isAddressChar c = true) :
    ∀ c ∈ s, isAddressChar c = true := by
  intro c hc
  by_cases hcolon : c = ':'
  · rw [hcolon]
    rfl
  · have hempty : ¬ s.isEmpty := by simpa using List.ne_nil_of_mem hc
    rw [colonParts, if_neg hempty, Text.pieces_singleton] at h
    obtain ⟨part, hpart, hcpart⟩ := Text.exists_mem_splitOn hc hcolon
    exact h part hpart c hcpart

theorem length_colonParts_le (s : List Char) : (colonParts s).length ≤ s.count ':' + 1 := by
  rw [colonParts]
  split
  · exact Nat.zero_le _
  · rw [Text.pieces_singleton, Text.length_splitOn]

/-- An address is one side with all its pieces, or two sides around a double colon. -/
theorem readIpv6_cases {pieces : List Nat} (h : readIpv6 s = some pieces) :
    (ipv6Side true (colonParts s) = some pieces ∧ pieces.length = 8) ∨
      ∃ left right high low, s = left ++ "::".toList ++ right ∧
        ipv6Side false (colonParts left) = some high ∧ ipv6Side true (colonParts right) = some low := by
  rw [readIpv6] at h
  split at h
  · obtain ⟨all, hside, hlength⟩ := Option.bind_eq_some_iff.mp h
    split at hlength
    · next height =>
      cases hlength
      exact .inl ⟨hside, height⟩
    · cases hlength
  · next left right hcut =>
    obtain ⟨high, hhigh, hmore⟩ := Option.bind_eq_some_iff.mp h
    obtain ⟨low, hlow, -⟩ := Option.bind_eq_some_iff.mp hmore
    exact .inr ⟨left, right, high, low, Text.eq_append_of_cutFirst hcut, hhigh, hlow⟩

theorem isAddressChar_of_readIpv6 {pieces : List Nat} (h : readIpv6 s = some pieces) :
    ∀ c ∈ s, isAddressChar c = true := by
  rcases readIpv6_cases h with ⟨hside, -⟩ | ⟨left, right, high, low, rfl, hhigh, hlow⟩
  · exact isAddressChar_of_colonParts (ipv6Side_eq_some hside).2
  · have hcolons : "::".toList.all isAddressChar = true := by decide
    intro c hc
    rcases List.mem_append.mp hc with hc | hc
    · rcases List.mem_append.mp hc with hc | hc
      · exact isAddressChar_of_colonParts (ipv6Side_eq_some hhigh).2 c hc
      · exact List.all_eq_true.mp hcolons c hc
    · exact isAddressChar_of_colonParts (ipv6Side_eq_some hlow).2 c hc

theorem two_le_count_of_readIpv6 {pieces : List Nat} (h : readIpv6 s = some pieces) :
    2 ≤ s.count ':' := by
  rcases readIpv6_cases h with ⟨hside, height⟩ | ⟨left, right, high, low, rfl, -, -⟩
  · have hpieces := (ipv6Side_eq_some hside).1
    have hparts := length_colonParts_le s
    omega
  · have hcolons : "::".toList.count ':' = 2 := rfl
    rw [List.count_append, List.count_append, hcolons]
    omega

/-! ## Reading such a text -/

theorem readPort_of_colon {scheme : String} (h : ':' ∈ s) : readPort scheme s = none := by
  have hempty : ¬ s.isEmpty := by simpa using List.ne_nil_of_mem h
  have hdigits : ¬ s.all Char.isDigit := fun hall => nomatch List.all_eq_true.mp hall ':' h
  rw [readPort, if_neg hempty, if_neg hdigits]

/-- Without brackets a text is cut at its first colon, and a port has no other. -/
theorem readAuthority_of_colons {scheme : String} (hsign : '@' ∉ s) (hopen : '[' ∉ s)
    (h : 2 ≤ s.count ':') : readAuthority scheme s = none := by
  have hcolon : ':' ∈ s := List.count_pos_iff.mp (by omega)
  obtain ⟨host, port, rfl, hhost⟩ := List.eq_append_cons_of_mem hcolon
  have hport : ':' ∈ port := by
    rw [List.count_append, List.count_eq_zero.mpr hhost, List.count_cons_self] at h
    exact List.count_pos_iff.mp (by omega)
  have hplain : ∀ c ∈ host, c ≠ ':' ∧ c ≠ '[' := by
    intro c hc
    refine ⟨fun heq => hhost (heq ▸ hc), fun heq => hopen ?_⟩
    exact List.mem_append_left _ (heq ▸ hc)
  have hcut : cutAtPort false (host ++ ':' :: port) = (host, some port) := by
    rw [cutAtPort_append hplain]
    simp [cutAtPort]
  have hread : readHostPort scheme (host ++ ':' :: port) = none := by
    rw [readHostPort, hcut]
    dsimp only
    split
    · rfl
    · rw [Option.getD_some, readPort_of_colon hport]
      cases Host.read (isSpecialScheme scheme) host <;> rfl
  rw [readAuthority, cutAtSign_of_not_mem hsign]
  simp [hread]

end

end Gateway.Url
