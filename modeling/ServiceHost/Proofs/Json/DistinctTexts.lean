import ServiceHost.Proofs.Json.NumberTexts
import ServiceHost.Proofs.Json.Strings
import ServiceHost.Proofs.Json.WellFormed

/-!
# Different values have different texts, each on one line

A text holds no control character (`printable_of_mem_write`), so no line break either.  The first
character tells what kind of value a text is of, and a value is told by its text even where
others stand behind it (`write_append_inj`): a number ends where its characters end, a string at its
closing quote, and an array or object by the bracket behind its last part.  The induction is on the
value, with its items and its members.  No reader is needed, so there is no limit to the nesting.
-/

namespace ServiceHost

theorem isNumberChar_bounds {c : Char} (h : Number.isNumberChar c = true) :
    0x20 ≤ c.toNat ∧ c.toNat < 0x7F := by
  simp only [Number.isNumberChar, Bool.or_eq_true, beq_iff_eq, Char.isDigit, Bool.and_eq_true,
    decide_eq_true_eq, UInt32.le_iff_toNat_le] at h
  obtain (((h | rfl) | rfl) | rfl) | rfl := h
  · have hbounds : 0x30 ≤ c.toNat ∧ c.toNat ≤ 0x39 := h
    omega
  all_goals decide

namespace Json

/-! ## One line -/

theorem printable_hexDigit : ∀ n < 16, 0x20 ≤ (hexDigit n).toNat := by decide

theorem printable_of_shortEscape? {c d : Char} (h : shortEscape? c = some d) : 0x20 ≤ c.toNat := by
  unfold shortEscape? at h
  split at h <;> first | decide | cases h

theorem printable_of_mem_escapeChar {c d : Char} (h : d ∈ escapeChar c) : 0x20 ≤ d.toNat := by
  obtain ⟨e, htext, he, -⟩ | ⟨hcontrol, htext⟩ | ⟨-, -, hvisible, htext⟩ := escapeChar_cases c
  · rw [htext] at h
    simp only [List.mem_cons, List.not_mem_nil, or_false] at h
    obtain rfl | rfl := h
    · decide
    · exact printable_of_shortEscape? he
  · rw [htext] at h
    simp only [List.mem_cons, List.not_mem_nil, or_false] at h
    obtain rfl | rfl | rfl | rfl | rfl | rfl := h
    iterate 4 decide
    · exact printable_hexDigit _ (by omega)
    · exact printable_hexDigit _ (by omega)
  · rw [htext, List.mem_singleton] at h
    exact h ▸ hvisible

theorem printable_of_mem_stringText {text : String} {c : Char} (h : c ∈ stringText text) :
    0x20 ≤ c.toNat := by
  simp only [stringText, List.cons_append, List.mem_cons, List.mem_append, List.mem_flatMap,
    List.not_mem_nil, or_false] at h
  obtain rfl | ⟨d, -, hd⟩ | rfl := h
  · decide
  · exact printable_of_mem_escapeChar hd
  · decide

theorem printable_of_all {text : List Char} (h : text.all (fun c => decide (0x20 ≤ c.toNat)) = true) :
    ∀ c ∈ text, 0x20 ≤ c.toNat := by
  intro c hc
  exact of_decide_eq_true (List.all_eq_true.mp h c hc)

theorem printable_cons {text : List Char} (c : Char) (hc : 0x20 ≤ c.toNat)
    (h : ∀ d ∈ text, 0x20 ≤ d.toNat) : ∀ d ∈ c :: text, 0x20 ≤ d.toNat :=
  List.forall_mem_cons.mpr ⟨hc, h⟩

theorem printable_append {text other : List Char} (h : ∀ d ∈ text, 0x20 ≤ d.toNat)
    (hother : ∀ d ∈ other, 0x20 ≤ d.toNat) : ∀ d ∈ text ++ other, 0x20 ≤ d.toNat :=
  List.forall_mem_append.mpr ⟨h, hother⟩

mutual

/-- **A text holds no control character.** -/
theorem printable_of_mem_write : ∀ (value : Json), ∀ c ∈ write value, 0x20 ≤ c.toNat
  | null => printable_of_all rfl
  | bool true => printable_of_all rfl
  | bool false => printable_of_all rfl
  | number n => fun c hc => (isNumberChar_bounds (Number.isNumberChar_of_mem_text hc)).1
  | string text => fun c hc => printable_of_mem_stringText hc
  | array items =>
      printable_append (printable_cons _ (by decide) (printable_of_mem_writeItems items))
        (printable_of_all rfl)
  | object members =>
      printable_append (printable_cons _ (by decide) (printable_of_mem_writeMembers members))
        (printable_of_all rfl)

theorem printable_of_mem_writeItems : ∀ (items : List Json), ∀ c ∈ writeItems items, 0x20 ≤ c.toNat
  | [] => printable_of_all rfl
  | [item] => printable_of_mem_write item
  | item :: next :: rest =>
      printable_append (printable_of_mem_write item)
        (printable_cons _ (by decide) (printable_of_mem_writeItems (next :: rest)))

theorem printable_of_mem_writeMembers :
    ∀ (members : List (String × Json)), ∀ c ∈ writeMembers members, 0x20 ≤ c.toNat
  | [] => printable_of_all rfl
  | [(key, value)] =>
      printable_append (fun c hc => printable_of_mem_stringText hc)
        (printable_cons _ (by decide) (printable_of_mem_write value))
  | (key, value) :: next :: rest =>
      printable_append (fun c hc => printable_of_mem_stringText hc)
        (printable_cons _ (by decide) (printable_append (printable_of_mem_write value)
          (printable_cons _ (by decide) (printable_of_mem_writeMembers (next :: rest)))))

end

/-! ## What kind of value a text is of -/

/-- The kinds of values, with the two truth values apart. -/
inductive Kind where
  | null
  | bool (value : Bool)
  | number
  | string
  | array
  | object
  deriving DecidableEq

/-- The kind of a value. -/
def kind : Json → Kind
  | null => .null
  | bool value => .bool value
  | number _ => .number
  | string _ => .string
  | array _ => .array
  | object _ => .object

/-- The kind that a first character tells. -/
def Kind.ofHead (c : Char) : Kind :=
  if c = 'n' then .null
  else if c = 't' then .bool true
  else if c = 'f' then .bool false
  else if c = '"' then .string
  else if c = '[' then .array
  else if c = '{' then .object
  else .number

/-- The first character of a text tells the kind of the value, and is not the end of an array. -/
theorem write_eq_cons (value : Json) :
    ∃ c rest, write value = c :: rest ∧ Kind.ofHead c = value.kind ∧ c ≠ ']' := by
  cases value with
  | null => exact ⟨_, _, rfl, rfl, by decide⟩
  | bool b => cases b <;> exact ⟨_, _, rfl, rfl, by decide⟩
  | number n =>
      obtain ⟨c, rest, htext, hc⟩ := n.text_eq_cons
      have hother : ∀ d : Char, d.isDigit = false → d ≠ '-' → c ≠ d := by
        intro d hdigit hminus heq
        subst heq
        obtain hc | hc := hc
        · rw [hdigit] at hc
          cases hc
        · exact hminus hc
      refine ⟨c, rest, htext, ?_, hother ']' rfl (by decide)⟩
      simp only [Kind.ofHead, hother 'n' rfl (by decide), hother 't' rfl (by decide),
        hother 'f' rfl (by decide), hother '"' rfl (by decide), hother '[' rfl (by decide),
        hother '{' rfl (by decide), if_false, kind]
  | string text => exact ⟨_, _, rfl, rfl, by decide⟩
  | array items => exact ⟨_, _, rfl, rfl, by decide⟩
  | object members => exact ⟨_, _, rfl, rfl, by decide⟩

/-! ## A value told by its text -/

/-- Whether no number goes on with a text, whatever its characters. -/
def StopsNumber (rest : Rest) : Prop :=
  ∀ c ∈ rest.head?, Number.isNumberChar c = false

theorem stopsNumber_cons {c : Char} (h : Number.isNumberChar c = false) (rest : Rest) :
    StopsNumber (c :: rest) := by
  intro d hd
  obtain rfl := Option.some.inj hd
  exact h

/-- A number and what stands behind it are told by the characters of numbers. -/
theorem numberText_append_inj {m n : Number} (hm : m.IsProper) (hn : n.IsProper) {rest other : Rest}
    (hrest : StopsNumber rest) (hother : StopsNumber other)
    (h : m.text ++ rest = n.text ++ other) : m = n ∧ rest = other := by
  have htake : ∀ (k : Number) (tail : Rest), StopsNumber tail →
      (k.text ++ tail).takeWhile Number.isNumberChar = k.text := by
    intro k tail htail
    rw [List.takeWhile_append_of_pos fun c hc => Number.isNumberChar_of_mem_text hc]
    cases tail with
    | nil => simp
    | cons c tail => simp [htail c rfl]
  have htext : m.text = n.text := by
    rw [← htake m rest hrest, ← htake n other hother, h]
  refine ⟨Number.text_injective hm hn htext, ?_⟩
  rw [htext] at h
  exact List.append_cancel_left h

/-- A string and what stands behind it are told by its closing quote. -/
theorem stringText_append_inj {text other : String} {rest tail : Rest}
    (h : stringText text ++ rest = stringText other ++ tail) : text = other ∧ rest = tail := by
  obtain ⟨inner, htext, hread⟩ := takeString_stringText text rest
  obtain ⟨inner', htext', hread'⟩ := takeString_stringText other tail
  rw [htext, htext'] at h
  rw [(List.cons.inj h).2, hread'] at hread
  exact ⟨(Prod.mk.inj (Option.some.inj hread)).1.symm, (Prod.mk.inj (Option.some.inj hread)).2.symm⟩

/-- What stands behind an item of an array. -/
def behindItem (items : List Json) (rest : Rest) : Rest :=
  if items.isEmpty then ']' :: rest else ',' :: (writeItems items ++ ']' :: rest)

/-- What stands behind a member of an object. -/
def behindMember (members : Members) (rest : Rest) : Rest :=
  if members.isEmpty then '}' :: rest else ',' :: (writeMembers members ++ '}' :: rest)

theorem writeItems_append (item : Json) (items : List Json) (rest : Rest) :
    writeItems (item :: items) ++ ']' :: rest = write item ++ behindItem items rest := by
  cases items with
  | nil => rfl
  | cons next items => simp [writeItems, behindItem]

theorem writeMembers_append (key : String) (value : Json) (members : Members) (rest : Rest) :
    writeMembers ((key, value) :: members) ++ '}' :: rest =
      stringText key ++ ':' :: (write value ++ behindMember members rest) := by
  cases members with
  | nil => simp [writeMembers, behindMember]
  | cons next members => simp [writeMembers, behindMember]

theorem stopsNumber_behindItem (items : List Json) (rest : Rest) :
    StopsNumber (behindItem items rest) := by
  unfold behindItem
  split <;> exact stopsNumber_cons rfl _

theorem stopsNumber_behindMember (members : Members) (rest : Rest) :
    StopsNumber (behindMember members rest) := by
  unfold behindMember
  split <;> exact stopsNumber_cons rfl _

/-- The first character behind an item tells whether another one comes. -/
theorem writeItems_of_behindItem {items others : List Json} {rest tail : Rest}
    (h : behindItem items rest = behindItem others tail) :
    writeItems items ++ ']' :: rest = writeItems others ++ ']' :: tail := by
  cases items with
  | nil =>
      cases others with
      | nil => exact h
      | cons other others => exact absurd (List.cons.inj h).1 (by decide)
  | cons item items =>
      cases others with
      | nil => exact absurd (List.cons.inj h).1 (by decide)
      | cons other others => exact (List.cons.inj h).2

/-- The first character behind a member tells whether another one comes. -/
theorem writeMembers_of_behindMember {members others : Members} {rest tail : Rest}
    (h : behindMember members rest = behindMember others tail) :
    writeMembers members ++ '}' :: rest = writeMembers others ++ '}' :: tail := by
  cases members with
  | nil =>
      cases others with
      | nil => exact h
      | cons other others => exact absurd (List.cons.inj h).1 (by decide)
  | cons member members =>
      cases others with
      | nil => exact absurd (List.cons.inj h).1 (by decide)
      | cons other others => exact (List.cons.inj h).2

theorem writeItems_cons_ne (item : Json) (items : List Json) (rest tail : Rest) :
    writeItems (item :: items) ++ ']' :: rest ≠ writeItems [] ++ ']' :: tail := by
  intro h
  obtain ⟨c, text, htext, -, hc⟩ := write_eq_cons item
  rw [writeItems_append, htext] at h
  exact hc (List.cons.inj h).1

theorem writeMembers_cons_ne (member : String × Json) (members : Members) (rest tail : Rest) :
    writeMembers (member :: members) ++ '}' :: rest ≠ writeMembers [] ++ '}' :: tail := by
  intro h
  rw [writeMembers_append] at h
  exact absurd (List.cons.inj h).1 (by decide)

/-- Whether the numbers of a value are of the two kinds there are. -/
def HasProperNumbers (value : Json) : Prop :=
  ∀ n ∈ value.numbers, n.IsProper

theorem HasProperNumbers.item {items : List Json} (h : (array items).HasProperNumbers) :
    ∀ item ∈ items, item.HasProperNumbers := by
  intro item hmem n hn
  exact h n (mem_numbersOfItems.mpr ⟨item, hmem, hn⟩)

theorem HasProperNumbers.member {members : Members} (h : (object members).HasProperNumbers) :
    ∀ member ∈ members, member.2.HasProperNumbers := by
  intro member hmem n hn
  exact h n (mem_numbersOfMembers.mpr ⟨member, hmem, hn⟩)

mutual

/-- **A value and what stands behind it are told by their text.** -/
theorem write_append_inj (value other : Json) {rest tail : Rest}
    (hvalue : value.HasProperNumbers) (hother : other.HasProperNumbers)
    (hrest : StopsNumber rest) (htail : StopsNumber tail)
    (h : write value ++ rest = write other ++ tail) : value = other ∧ rest = tail := by
  have hkind : value.kind = other.kind := by
    obtain ⟨c, text, htext, hc, -⟩ := write_eq_cons value
    obtain ⟨d, text', htext', hd, -⟩ := write_eq_cons other
    have hsame := h
    rw [htext, htext'] at hsame
    rw [← hc, ← hd, (List.cons.inj hsame).1]
  cases value with
  | null =>
      cases other with
      | null => exact ⟨rfl, List.append_cancel_left h⟩
      | _ => cases hkind
  | bool b =>
      cases other with
      | bool c =>
          obtain rfl := Kind.bool.inj hkind
          exact ⟨rfl, List.append_cancel_left h⟩
      | _ => cases hkind
  | number m =>
      cases other with
      | number n =>
          have hm : m.IsProper := hvalue m List.mem_cons_self
          have hn : n.IsProper := hother n List.mem_cons_self
          obtain ⟨rfl, htails⟩ := numberText_append_inj hm hn hrest htail h
          exact ⟨rfl, htails⟩
      | _ => cases hkind
  | string text =>
      cases other with
      | string text' =>
          obtain ⟨rfl, htails⟩ := stringText_append_inj h
          exact ⟨rfl, htails⟩
      | _ => cases hkind
  | array items =>
      cases other with
      | array others =>
          simp only [write, List.cons_append, List.append_assoc, List.nil_append] at h
          obtain ⟨hsame, htails⟩ := writeItems_append_inj items others hvalue.item hother.item
            (List.cons.inj h).2
          exact ⟨congrArg array hsame, htails⟩
      | _ => cases hkind
  | object members =>
      cases other with
      | object others =>
          simp only [write, List.cons_append, List.append_assoc, List.nil_append] at h
          obtain ⟨hsame, htails⟩ := writeMembers_append_inj members others hvalue.member
            hother.member (List.cons.inj h).2
          exact ⟨congrArg object hsame, htails⟩
      | _ => cases hkind

/-- The items of an array and what stands behind its bracket are told by their text. -/
theorem writeItems_append_inj (items others : List Json) {rest tail : Rest}
    (hitems : ∀ item ∈ items, item.HasProperNumbers)
    (hothers : ∀ other ∈ others, other.HasProperNumbers)
    (h : writeItems items ++ ']' :: rest = writeItems others ++ ']' :: tail) :
    items = others ∧ rest = tail := by
  cases items with
  | nil =>
      cases others with
      | nil => exact ⟨rfl, (List.cons.inj h).2⟩
      | cons other others => exact absurd h.symm (writeItems_cons_ne other others tail rest)
  | cons item items =>
      cases others with
      | nil => exact absurd h (writeItems_cons_ne item items rest tail)
      | cons other others =>
          rw [writeItems_append, writeItems_append] at h
          obtain ⟨hitem, hnext⟩ := List.forall_mem_cons.mp hitems
          obtain ⟨hother, hnext'⟩ := List.forall_mem_cons.mp hothers
          obtain ⟨hsame, hbehind⟩ := write_append_inj item other hitem hother
            (stopsNumber_behindItem _ _) (stopsNumber_behindItem _ _) h
          obtain ⟨hrest, htails⟩ := writeItems_append_inj items others hnext hnext'
            (writeItems_of_behindItem hbehind)
          exact ⟨congrArg₂ List.cons hsame hrest, htails⟩

/-- The members of an object and what stands behind its brace are told by their text. -/
theorem writeMembers_append_inj (members others : List (String × Json)) {rest tail : Rest}
    (hmembers : ∀ member ∈ members, member.2.HasProperNumbers)
    (hothers : ∀ other ∈ others, other.2.HasProperNumbers)
    (h : writeMembers members ++ '}' :: rest = writeMembers others ++ '}' :: tail) :
    members = others ∧ rest = tail := by
  match members with
  | [] =>
      cases others with
      | nil => exact ⟨rfl, (List.cons.inj h).2⟩
      | cons other others => exact absurd h.symm (writeMembers_cons_ne other others tail rest)
  | (key, value) :: members =>
      cases others with
      | nil => exact absurd h (writeMembers_cons_ne _ members rest tail)
      | cons other others =>
          obtain ⟨key', value'⟩ := other
          rw [writeMembers_append, writeMembers_append] at h
          obtain ⟨hvalue, hnext⟩ := List.forall_mem_cons.mp hmembers
          obtain ⟨hvalue', hnext'⟩ := List.forall_mem_cons.mp hothers
          obtain ⟨hkey, hcolon⟩ := stringText_append_inj h
          obtain ⟨hsame, hbehind⟩ := write_append_inj value value' hvalue hvalue'
            (stopsNumber_behindMember _ _) (stopsNumber_behindMember _ _) (List.cons.inj hcolon).2
          obtain ⟨hrest, htails⟩ := writeMembers_append_inj members others hnext hnext'
            (writeMembers_of_behindMember hbehind)
          rw [hkey, hsame, hrest]
          exact ⟨rfl, htails⟩

end

/-- **Different values have different texts.** -/
theorem write_injective {value other : Json} (hvalue : value.HasProperNumbers)
    (hother : other.HasProperNumbers) (h : write value = write other) : value = other := by
  have hend : StopsNumber [] := by
    intro c hc
    cases hc
  refine (write_append_inj value other hvalue hother hend hend ?_).1
  rw [h]

/-- Different lists of values have different lists of texts. -/
theorem map_write_injective {values others : List Json}
    (hvalues : ∀ value ∈ values, value.HasProperNumbers)
    (hothers : ∀ other ∈ others, other.HasProperNumbers)
    (h : values.map write = others.map write) : values = others := by
  induction values generalizing others with
  | nil => exact (List.map_eq_nil_iff.mp h.symm).symm
  | cons value values ih =>
      obtain ⟨other, rest, rfl, htext, hrest⟩ := List.map_eq_cons_iff.mp h.symm
      obtain ⟨hvalue, hvalues⟩ := List.forall_mem_cons.mp hvalues
      obtain ⟨hother, hothers⟩ := List.forall_mem_cons.mp hothers
      rw [write_injective hother hvalue htext, ih hvalues hothers hrest.symm]

end Json

end ServiceHost
