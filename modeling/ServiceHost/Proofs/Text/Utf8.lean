import ServiceHost.Text.Utf8

/-!
# UTF-8 reads back what it writes

The first octet of a character tells how many follow and bounds the second one (`lead?_one` to
`lead?_four`); a continuation octet within these bounds adds six bits.  So one step of a reader takes
exactly one written character off the front, whatever stands behind it (`next_encodeChar`), and
strict and lossy reading give every written text back (`decode?_encode`, `toText_encode`).  The other
way round, the bounds of the second octet leave one spelling for each character, so what is read
strictly is written as it stood (`encode_of_decode?`).
-/

namespace ServiceHost.Utf8

theorem toNat_toUInt8 {n : Nat} (h : n < 0x100) : n.toUInt8.toNat = n := by
  simp [Nat.toUInt8, UInt8.toNat_ofNat', Nat.mod_eq_of_lt h]

/-! ## First octets -/

theorem within_tail {m : Nat} (hm : m < 0x40) :
    (0x80 : UInt8).toNat ≤ 0x80 + m ∧ 0x80 + m ≤ (0xBF : UInt8).toNat :=
  ⟨by simp, by simp; omega⟩

/-- Whether six bits may stand in the octet behind a first octet. -/
def Lead.Allows (l : Lead) (m : Nat) : Prop :=
  l.least.toNat ≤ 0x80 + m ∧ 0x80 + m ≤ l.greatest.toNat

theorem lead?_one {n : Nat} (h : n < 0x80) : lead? n.toUInt8 = some { bits := n, more := 0 } := by
  have hn : n.toUInt8.toNat = n := toNat_toUInt8 (by omega)
  simp [lead?, UInt8.lt_iff_toNat_lt, hn, h]

theorem lead?_two {a : Nat} (hleast : 2 ≤ a) (h : a < 0x20) :
    lead? (0xC0 + a).toUInt8 = some { bits := a, more := 1 } := by
  have hn : (0xC0 + a).toUInt8.toNat = 0xC0 + a := toNat_toUInt8 (by omega)
  simp only [lead?, UInt8.lt_iff_toNat_lt, hn, UInt8.reduceToNat]
  rw [if_neg (by omega), if_neg (by omega), if_pos (by omega), Nat.add_sub_cancel_left]

/-- The second octet must rule out what fits two octets and the surrogates. -/
theorem lead?_three {a : Nat} (h : a < 0x10) :
    ∃ l, lead? (0xE0 + a).toUInt8 = some l ∧ l.bits = a ∧ l.more = 2 ∧
      ∀ m < 0x40, (a = 0 → 0x20 ≤ m) → (a = 0xD → m < 0x20) → l.Allows m := by
  have hn : (0xE0 + a).toUInt8.toNat = 0xE0 + a := toNat_toUInt8 (by omega)
  by_cases hzero : a = 0
  · subst hzero
    exact ⟨_, rfl, rfl, rfl, fun m hm hlow _ => ⟨by have := hlow rfl; simp; omega, by simp; omega⟩⟩
  by_cases hsurrogate : a = 0xD
  · subst hsurrogate
    exact ⟨_, rfl, rfl, rfl, fun m hm _ hhigh => ⟨by simp, by have := hhigh rfl; simp; omega⟩⟩
  refine ⟨{ bits := a, more := 2 }, ?_, rfl, rfl, fun m hm _ _ => within_tail hm⟩
  simp only [lead?, UInt8.lt_iff_toNat_lt, ← UInt8.toNat_inj, hn, UInt8.reduceToNat]
  rw [if_neg (by omega), if_neg (by omega), if_neg (by omega), if_neg (by omega),
    if_neg (by omega), if_pos (by omega), Nat.add_sub_cancel_left]

/-- The second octet must rule out what fits three octets and what lies beyond U+10FFFF. -/
theorem lead?_four {a : Nat} (h : a < 5) :
    ∃ l, lead? (0xF0 + a).toUInt8 = some l ∧ l.bits = a ∧ l.more = 3 ∧
      ∀ m < 0x40, (a = 0 → 0x10 ≤ m) → (a = 4 → m < 0x10) → l.Allows m := by
  have hn : (0xF0 + a).toUInt8.toNat = 0xF0 + a := toNat_toUInt8 (by omega)
  by_cases hzero : a = 0
  · subst hzero
    exact ⟨_, rfl, rfl, rfl, fun m hm hlow _ => ⟨by have := hlow rfl; simp; omega, by simp; omega⟩⟩
  by_cases hlast : a = 4
  · subst hlast
    exact ⟨_, rfl, rfl, rfl, fun m hm _ hhigh => ⟨by simp, by have := hhigh rfl; simp; omega⟩⟩
  refine ⟨{ bits := a, more := 3 }, ?_, rfl, rfl, fun m hm _ _ => within_tail hm⟩
  simp only [lead?, UInt8.lt_iff_toNat_lt, ← UInt8.toNat_inj, hn, UInt8.reduceToNat]
  rw [if_neg (by omega), if_neg (by omega), if_neg (by omega), if_neg (by omega),
    if_neg (by omega), if_neg (by omega), if_neg (by omega), if_pos (by omega),
    Nat.add_sub_cancel_left]

/-! ## Characters -/

theorem continuation_octet {value more m : Nat} {least greatest : UInt8} {rest : Octets}
    (hm : m < 0x40) (h : least.toNat ≤ 0x80 + m ∧ 0x80 + m ≤ greatest.toNat) :
    continuation value (more + 1) least greatest ((0x80 + m).toUInt8 :: rest) =
      continuation (value * 0x40 + m) more 0x80 0xBF rest := by
  have hn : (0x80 + m).toUInt8.toNat = 0x80 + m := toNat_toUInt8 (by omega)
  have hmod : (0x80 + m) % 0x40 = m := by omega
  simp only [continuation, UInt8.le_iff_toNat_le, hn, h.1, h.2, and_self, if_true, hmod]

theorem next_two {n : Nat} (hleast : 0x80 ≤ n) (h : n < 0x800) (rest : Octets) :
    next (0xC0 + n / 0x40).toUInt8 ((0x80 + n % 0x40).toUInt8 :: rest) =
      (some (Char.ofNat n), rest) := by
  have hm : n % 0x40 < 0x40 := by omega
  have hvalue : n / 0x40 * 0x40 + n % 0x40 = n := by omega
  rw [next, lead?_two (by omega) (by omega)]
  simp only
  rw [continuation_octet hm (within_tail hm)]
  simp only [continuation, Option.map_some, hvalue]

theorem next_three {n : Nat} (hleast : 0x800 ≤ n) (h : n < 0x10000)
    (hchar : n < 0xD800 ∨ 0xDFFF < n) (rest : Octets) :
    next (0xE0 + n / 0x1000).toUInt8
        ((0x80 + n / 0x40 % 0x40).toUInt8 :: (0x80 + n % 0x40).toUInt8 :: rest) =
      (some (Char.ofNat n), rest) := by
  have hm : n % 0x40 < 0x40 := by omega
  have hm' : n / 0x40 % 0x40 < 0x40 := by omega
  have hvalue : (n / 0x1000 * 0x40 + n / 0x40 % 0x40) * 0x40 + n % 0x40 = n := by omega
  obtain ⟨l, hlead, hbits, hmore, hallows⟩ := @lead?_three (n / 0x1000) (by omega)
  have hsecond := hallows (n / 0x40 % 0x40) hm' (by omega) (by omega)
  rw [next, hlead]
  simp only [hmore]
  rw [continuation_octet hm' hsecond, continuation_octet hm (within_tail hm)]
  simp only [continuation, Option.map_some, hbits, hvalue]

theorem next_four {n : Nat} (hleast : 0x10000 ≤ n) (h : n < 0x110000) (rest : Octets) :
    next (0xF0 + n / 0x40000).toUInt8
        ((0x80 + n / 0x1000 % 0x40).toUInt8 :: (0x80 + n / 0x40 % 0x40).toUInt8 ::
          (0x80 + n % 0x40).toUInt8 :: rest) =
      (some (Char.ofNat n), rest) := by
  have hm : n % 0x40 < 0x40 := by omega
  have hm' : n / 0x40 % 0x40 < 0x40 := by omega
  have hm'' : n / 0x1000 % 0x40 < 0x40 := by omega
  have hvalue : ((n / 0x40000 * 0x40 + n / 0x1000 % 0x40) * 0x40 + n / 0x40 % 0x40) * 0x40 +
      n % 0x40 = n := by omega
  obtain ⟨l, hlead, hbits, hmore, hallows⟩ := @lead?_four (n / 0x40000) (by omega)
  have hsecond := hallows (n / 0x1000 % 0x40) hm'' (by omega) (by omega)
  rw [next, hlead]
  simp only [hmore]
  rw [continuation_octet hm'' hsecond, continuation_octet hm' (within_tail hm'),
    continuation_octet hm (within_tail hm)]
  simp only [continuation, Option.map_some, hbits, hvalue]

/-- **A written character is read off the front.** -/
theorem next_encodeChar (c : Char) (rest : Octets) :
    ∃ b behind, encodeChar c = b :: behind ∧ next b (behind ++ rest) = (some c, rest) := by
  have hbounds : c.toNat < 0xD800 ∨ 0xDFFF < c.toNat ∧ c.toNat < 0x110000 := c.valid
  have hread : Char.ofNat c.toNat = c := Char.ofNat_toNat c
  unfold encodeChar
  generalize c.toNat = n at hbounds hread
  by_cases hone : n < 0x80
  · refine ⟨_, _, if_pos hone, ?_⟩
    simp [next, lead?_one hone, continuation, hread]
  rw [if_neg hone]
  by_cases htwo : n < 0x800
  · exact ⟨_, _, if_pos htwo, hread ▸ next_two (by omega) htwo rest⟩
  rw [if_neg htwo]
  by_cases hthree : n < 0x10000
  · exact ⟨_, _, if_pos hthree, hread ▸ next_three (by omega) hthree (by omega) rest⟩
  · exact ⟨_, _, if_neg hthree, hread ▸ next_four (by omega) (by omega) rest⟩

/-- Every octet of a character beyond ASCII is beyond ASCII. -/
theorem le_of_mem_encodeChar {c : Char} (hc : 0x80 ≤ c.toNat) {b : UInt8}
    (hb : b ∈ encodeChar c) : 0x80 ≤ b.toNat := by
  have hvalid : c.toNat < 0xD800 ∨ 0xDFFF < c.toNat ∧ c.toNat < 0x110000 := c.valid
  unfold encodeChar at hb
  generalize c.toNat = n at hc hvalid hb
  have hoctet : ∃ m, 0x80 ≤ m ∧ m < 0x100 ∧ b = m.toUInt8 := by
    simp only [if_neg (show ¬ n < 0x80 by omega)] at hb
    split at hb
    · simp only [List.mem_cons, List.not_mem_nil, or_false] at hb
      rcases hb with rfl | rfl <;> exact ⟨_, by omega, by omega, rfl⟩
    · split at hb
      · simp only [List.mem_cons, List.not_mem_nil, or_false] at hb
        rcases hb with rfl | rfl | rfl <;> exact ⟨_, by omega, by omega, rfl⟩
      · simp only [List.mem_cons, List.not_mem_nil, or_false] at hb
        rcases hb with rfl | rfl | rfl | rfl <;> exact ⟨_, by omega, by omega, rfl⟩
  obtain ⟨m, hleast, hmost, rfl⟩ := hoctet
  rw [toNat_toUInt8 hmost]
  exact hleast

/-- An ASCII character is the only one with its octet. -/
theorem eq_of_mem_encodeChar {c d : Char} (hd : d.toNat < 0x80)
    (h : d.toNat.toUInt8 ∈ encodeChar c) : c = d := by
  have hoctet : d.toNat.toUInt8.toNat = d.toNat := toNat_toUInt8 (by omega)
  by_cases hc : c.toNat < 0x80
  · have hchar : encodeChar c = [c.toNat.toUInt8] := by simp [encodeChar, hc]
    rw [hchar, List.mem_singleton] at h
    have hnat := congrArg UInt8.toNat h
    rw [hoctet, toNat_toUInt8 (by omega)] at hnat
    rw [← Char.ofNat_toNat c, ← hnat, Char.ofNat_toNat]
  · have := le_of_mem_encodeChar (by omega) h
    omega

/-! ## Texts -/

/-- **A written text is read character by character.** -/
theorem next_encode (c : Char) (text : List Char) :
    ∃ b rest, encode (c :: text) = b :: rest ∧ next b rest = (some c, encode text) := by
  obtain ⟨b, behind, hchar, hnext⟩ := next_encodeChar c (encode text)
  exact ⟨b, behind ++ encode text, by simp [encode, List.flatMap_cons, hchar], hnext⟩

theorem decodeOnto?_encode (done text : List Char) :
    decodeOnto? done (encode text) = some (done.reverse ++ text) := by
  induction text generalizing done with
  | nil => simp [encode, decodeOnto?]
  | cons c text ih =>
      obtain ⟨b, rest, hencode, hnext⟩ := next_encode c text
      rw [hencode, decodeOnto?, hnext]
      simp only
      rw [ih]
      simp

/-- **Strict reading gives a written text back.** -/
theorem decode?_encode (text : List Char) : decode? (encode text) = some text := by
  simp [decode?, decodeOnto?_encode]

theorem decodeLossyOnto_encode (done text : List Char) :
    decodeLossyOnto done (encode text) = done.reverse ++ text := by
  induction text generalizing done with
  | nil => simp [encode, decodeLossyOnto]
  | cons c text ih =>
      obtain ⟨b, rest, hencode, hnext⟩ := next_encode c text
      rw [hencode, decodeLossyOnto, hnext]
      simp only
      rw [ih]
      simp

/-- **Lossy reading loses nothing of a written text.** -/
theorem toText_encode (text : List Char) : toText (encode text) = String.ofList text := by
  simp [toText, decodeLossy, decodeLossyOnto_encode]

theorem encode_eq_nil_iff {text : List Char} : encode text = [] ↔ text = [] := by
  constructor
  · intro h
    have hread := decode?_encode text
    rw [h] at hread
    simpa [decode?, decodeOnto?] using hread.symm
  · rintro rfl
    rfl

/-- A text of ASCII has one octet for each character. -/
theorem encode_of_ascii {text : List Char} (h : ∀ c ∈ text, c.toNat < 0x80) :
    encode text = text.map fun c => c.toNat.toUInt8 := by
  induction text with
  | nil => rfl
  | cons c text ih =>
      have hc := h c List.mem_cons_self
      have hchar : encodeChar c = [c.toNat.toUInt8] := by simp [encodeChar, hc]
      have hrest := ih fun d hd => h d (List.mem_cons_of_mem _ hd)
      rw [encode, List.flatMap_cons, hchar, ← encode, hrest]
      rfl

/-! ## Reading and writing again -/

theorem toUInt8_of_toNat_eq {b : UInt8} {n : Nat} (h : b.toNat = n) : n.toUInt8 = b := by
  subst h
  exact UInt8.ofNat_toNat

/-- What a first octet says, by how many octets follow. -/
inductive LeadOf (b : UInt8) (l : Lead) : Prop
  | one (hmore : l.more = 0) (hbits : b.toNat = l.bits) (hascii : l.bits < 0x80)
  | two (hmore : l.more = 1) (hbits : b.toNat = 0xC0 + l.bits) (hleast : 2 ≤ l.bits)
      (hmost : l.bits < 0x20)
  | three (hmore : l.more = 2) (hbits : b.toNat = 0xE0 + l.bits) (hmost : l.bits < 0x10)
      (hlow : l.bits = 0 → l.least.toNat = 0xA0)
      (hsurrogate : l.bits = 0xD → l.greatest.toNat = 0x9F)
  | four (hmore : l.more = 3) (hbits : b.toNat = 0xF0 + l.bits) (hmost : l.bits < 5)
      (hlow : l.bits = 0 → l.least.toNat = 0x90) (hhigh : l.bits = 4 → l.greatest.toNat = 0x8F)

/-- A first octet bounds the second within what continues a character. -/
theorem leadOf_of_lead? {b : UInt8} {l : Lead} (h : lead? b = some l) :
    LeadOf b l ∧ 0x80 ≤ l.least ∧ l.greatest ≤ 0xBF := by
  unfold lead? at h
  simp only [UInt8.lt_iff_toNat_lt, ← UInt8.toNat_inj, UInt8.reduceToNat] at h
  have htail : (0x80 : UInt8) ≤ 0x80 ∧ (0xBF : UInt8) ≤ 0xBF := by decide
  split at h
  · obtain rfl := Option.some.inj h
    exact ⟨.one rfl rfl ‹_›, htail⟩
  split at h
  · cases h
  split at h
  · obtain rfl := Option.some.inj h
    exact ⟨.two rfl (show _ = 0xC0 + (_ - 0xC0) by omega) (show _ ≤ _ - 0xC0 by omega)
      (show _ - 0xC0 < _ by omega), htail⟩
  split at h
  · obtain rfl := Option.some.inj h
    exact ⟨.three rfl ‹_› (by decide) (fun _ => rfl) (by decide), by decide⟩
  split at h
  · obtain rfl := Option.some.inj h
    exact ⟨.three rfl ‹_› (by decide) (by decide) (fun _ => rfl), by decide⟩
  split at h
  · obtain rfl := Option.some.inj h
    exact ⟨.three rfl (show _ = 0xE0 + (_ - 0xE0) by omega) (show _ - 0xE0 < _ by omega)
      (fun hzero : _ - 0xE0 = _ => by omega) (fun hd : _ - 0xE0 = _ => by omega),
      htail⟩
  split at h
  · obtain rfl := Option.some.inj h
    exact ⟨.four rfl ‹_› (by decide) (fun _ => rfl) (by decide), by decide⟩
  split at h
  · obtain rfl := Option.some.inj h
    exact ⟨.four rfl (show _ = 0xF0 + (_ - 0xF0) by omega) (show _ - 0xF0 < _ by omega)
      (fun hzero : _ - 0xF0 = _ => by omega) (fun hlast : _ - 0xF0 = _ => by omega),
      htail⟩
  split at h
  · obtain rfl := Option.some.inj h
    exact ⟨.four rfl ‹_› (by decide) (by decide) (fun _ => rfl), by decide⟩
  · cases h

/-- A continuation that succeeds starts with an octet within its bounds. -/
theorem continuation_succ {value more v : Nat} {least greatest : UInt8} {rest left : Octets}
    (hleast : 0x80 ≤ least) (hgreatest : greatest ≤ 0xBF)
    (h : continuation value (more + 1) least greatest rest = (some v, left)) :
    ∃ m d behind, rest = d :: behind ∧ d.toNat = 0x80 + m ∧ m < 0x40 ∧ least.toNat ≤ 0x80 + m ∧
      0x80 + m ≤ greatest.toNat ∧
      continuation (value * 0x40 + m) more 0x80 0xBF behind = (some v, left) := by
  cases rest with
  | nil => simp [continuation] at h
  | cons d behind =>
      rw [continuation] at h
      split at h
      · rename_i hbounds
        simp only [UInt8.le_iff_toNat_le, UInt8.reduceToNat] at hbounds hleast hgreatest
        have hm : d.toNat % 0x40 = d.toNat - 0x80 := by omega
        refine ⟨d.toNat - 0x80, d, behind, rfl, by omega, by omega, by omega, by omega, ?_⟩
        rwa [hm] at h
      · simp at h

/-- **The octets of a character are the only ones that are read as it.** -/
theorem encodeChar_of_next {b : UInt8} {c : Char} {rest left : Octets}
    (h : next b rest = (some c, left)) : encodeChar c ++ left = b :: rest := by
  unfold next at h
  split at h
  · simp at h
  rename_i l hlead
  obtain ⟨hof, hleast, hgreatest⟩ := leadOf_of_lead? hlead
  simp only [Prod.mk.injEq, Option.map_eq_some_iff] at h
  obtain ⟨⟨v, hv, rfl⟩, hleft⟩ := h
  have hread : continuation l.bits l.more l.least l.greatest rest = (some v, left) :=
    Prod.ext hv hleft
  clear hv hleft
  have hchar (hvalid : v.isValidChar) : (Char.ofNat v).toNat = v := by
    rw [Char.ofNat, dif_pos hvalid]
    rfl
  cases hof with
  | one hmore hbits hascii =>
      simp only [hmore, continuation, Prod.mk.injEq, Option.some.injEq] at hread
      obtain ⟨rfl, rfl⟩ := hread
      rw [encodeChar, hchar (Or.inl (by omega)), if_pos hascii, toUInt8_of_toNat_eq hbits]
      rfl
  | two hmore hbits htwo hmost =>
      rw [hmore] at hread
      obtain ⟨m, d, behind, rfl, hd, hm, -, -, hread⟩ :=
        continuation_succ hleast hgreatest hread
      simp only [continuation, Prod.mk.injEq, Option.some.injEq] at hread
      obtain ⟨rfl, rfl⟩ := hread
      rw [encodeChar, hchar (Or.inl (by omega)), if_neg (by omega), if_pos (by omega),
        toUInt8_of_toNat_eq (b := b) (by omega), toUInt8_of_toNat_eq (b := d) (by omega)]
      rfl
  | three hmore hbits hmost hlow hsurrogate =>
      rw [hmore] at hread
      obtain ⟨m, d, behind, rfl, hd, hm, hdown, hup, hread⟩ :=
        continuation_succ hleast hgreatest hread
      obtain ⟨m', d', behind, rfl, hd', hm', -, -, hread⟩ :=
        continuation_succ (by decide) (by decide) hread
      simp only [continuation, Prod.mk.injEq, Option.some.injEq] at hread
      obtain ⟨rfl, rfl⟩ := hread
      have hroom : l.bits = 0 → 0x20 ≤ m := fun hzero => by
        have := hlow hzero
        omega
      have hgap : l.bits = 0xD → m < 0x20 := fun hlast => by
        have := hsurrogate hlast
        omega
      rw [encodeChar, hchar (by show _ < _ ∨ _; omega), if_neg (by omega), if_neg (by omega),
        if_pos (by omega), toUInt8_of_toNat_eq (b := b) (by omega),
        toUInt8_of_toNat_eq (b := d) (by omega), toUInt8_of_toNat_eq (b := d') (by omega)]
      rfl
  | four hmore hbits hmost hlow hhigh =>
      rw [hmore] at hread
      obtain ⟨m, d, behind, rfl, hd, hm, hdown, hup, hread⟩ :=
        continuation_succ hleast hgreatest hread
      obtain ⟨m', d', behind, rfl, hd', hm', -, -, hread⟩ :=
        continuation_succ (by decide) (by decide) hread
      obtain ⟨m'', d'', behind, rfl, hd'', hm'', -, -, hread⟩ :=
        continuation_succ (by decide) (by decide) hread
      simp only [continuation, Prod.mk.injEq, Option.some.injEq] at hread
      obtain ⟨rfl, rfl⟩ := hread
      have hroom : l.bits = 0 → 0x10 ≤ m := fun hzero => by
        have := hlow hzero
        omega
      have hend : l.bits = 4 → m < 0x10 := fun hlast => by
        have := hhigh hlast
        omega
      rw [encodeChar, hchar (by show _ < _ ∨ _; omega), if_neg (by omega), if_neg (by omega),
        if_neg (by omega), toUInt8_of_toNat_eq (b := b) (by omega),
        toUInt8_of_toNat_eq (b := d) (by omega), toUInt8_of_toNat_eq (b := d') (by omega),
        toUInt8_of_toNat_eq (b := d'') (by omega)]
      rfl

theorem decodeOnto?_eq_some {done : List Char} {octets : Octets} {text : List Char}
    (h : decodeOnto? done octets = some text) :
    ∃ read, text = done.reverse ++ read ∧ encode read = octets := by
  fun_induction decodeOnto? done octets with
  | case1 done => exact ⟨[], by simpa using h.symm, rfl⟩
  | case2 done b rest hnone => simp at h
  | case3 done b rest c hnext ih =>
      obtain ⟨read, rfl, hread⟩ := ih h
      refine ⟨c :: read, by simp, ?_⟩
      rw [encode, List.flatMap_cons, ← encode, hread]
      exact encodeChar_of_next (Prod.ext hnext rfl)

/-- **Only the octets of a text are read as it.** -/
theorem encode_of_decode? {octets : Octets} {text : List Char} (h : decode? octets = some text) :
    encode text = octets := by
  obtain ⟨read, rfl, hread⟩ := decodeOnto?_eq_some h
  simpa using hread

end ServiceHost.Utf8
