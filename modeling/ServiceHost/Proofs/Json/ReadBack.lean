import ServiceHost.Proofs.Json.Strings
import ServiceHost.Proofs.Json.WellFormed
import ServiceHost.Proofs.Text.Utf8

/-!
# Values read back from their texts

Reading has one limit that writing has not: the depth of the nesting.  A value with sorted members
whose numbers read back from their own texts reads back from its text exactly if it nests at most
127 levels, and is refused otherwise (`read?_write`).  The members of an object may also be written in
any order (`read?_write_object`).  The induction is on the fuel of the reader: each of its three
functions reads back what it is for, provided the functions that it calls do with less fuel.
-/

namespace ServiceHost.Json

/-! ## First characters -/

/-- Whether a character is neither a blank nor the end of an array. -/
def StartsValue (c : Char) : Prop :=
  isBlank c = false ∧ c ≠ ']'

theorem skipBlanks_cons {c : Char} (h : isBlank c = false) (rest : Rest) :
    skipBlanks (c :: rest) = c :: rest := by
  simp [skipBlanks, h]

theorem startsValue_of_number {c : Char} (h : c.isDigit = true ∨ c = '-') :
    StartsValue c ∧ c ≠ '[' ∧ c ≠ '{' := by
  have hother : ∀ d : Char, d.isDigit = false → d ≠ '-' → c ≠ d := by
    rintro d hdigit hminus rfl
    rcases h with h | h
    · simp [hdigit] at h
    · exact hminus h
  have hblank : isBlank c = false := by
    simp [isBlank, hother ' ' rfl (by decide), hother '\n' rfl (by decide),
      hother '\r' rfl (by decide), hother '\t' rfl (by decide)]
  exact ⟨⟨hblank, hother ']' rfl (by decide)⟩, hother '[' rfl (by decide),
    hother '{' rfl (by decide)⟩

theorem head_of_readsBack {n : Number} (h : n.ReadsBack) :
    ∃ c tail, n.text = c :: tail ∧ (c.isDigit = true ∨ c = '-') := by
  rcases takeScalar_number (Number.readsBack_iff.mp h) with ⟨d, digits, htext, hd, -⟩ | ⟨digits, htext, -⟩
  · exact ⟨d, digits, htext, .inl hd⟩
  · exact ⟨_, digits, htext, .inr rfl⟩

/-- The text of a value starts with no blank and no end of an array. -/
theorem write_head {value : Json} (h : WellFormed Number.ReadsBack value) :
    ∃ c tail, value.write = c :: tail ∧ StartsValue c := by
  cases h with
  | null => exact ⟨_, _, rfl, by simp [StartsValue, isBlank]⟩
  | bool b => cases b <;> exact ⟨_, _, rfl, by simp [StartsValue, isBlank]⟩
  | number hread =>
      obtain ⟨c, tail, htext, hc⟩ := head_of_readsBack hread
      exact ⟨c, tail, by rw [write, htext], (startsValue_of_number hc).1⟩
  | string text => exact ⟨_, _, rfl, by simp [StartsValue, isBlank]⟩
  | array hitems => exact ⟨_, _, rfl, by simp [StartsValue, isBlank]⟩
  | object hsorted hmembers => exact ⟨_, _, rfl, by simp [StartsValue, isBlank]⟩

theorem writeItems_cons (item : Json) (items : List Json) :
    ∃ others, writeItems (item :: items) = item.write ++ others := by
  cases items with
  | nil => exact ⟨[], by simp [writeItems]⟩
  | cons next items => exact ⟨_, by rw [writeItems]; simp⟩

theorem writeMembers_cons (key : String) (value : Json) (members : Members) :
    ∃ others, writeMembers ((key, value) :: members) = '"' :: others := by
  cases members with
  | nil => exact ⟨_, by simp [writeMembers, stringText]; rfl⟩
  | cons next members => exact ⟨_, by simp [writeMembers, stringText]; rfl⟩

/-! ## One step of the reader -/

theorem takeValue_scalar {c : Char} (hblank : isBlank c = false) (harray : c ≠ '[')
    (hobject : c ≠ '{') (fuel room : Nat) (tail : Rest) :
    takeValue (fuel + 1) room (c :: tail) = takeScalar (c :: tail) := by
  rw [takeValue, skipBlanks_cons hblank]
  split
  · rename_i heq
    exact absurd (List.cons.inj heq).1 harray
  · rename_i heq
    exact absurd (List.cons.inj heq).1 hobject
  · rfl

theorem takeValue_array {c : Char} (h : StartsValue c) (fuel room : Nat) (tail : Rest) :
    takeValue (fuel + 1) room ('[' :: c :: tail) =
      if room = 0 then none else takeItems fuel (room - 1) [] (c :: tail) := by
  rw [takeValue, skipBlanks_cons (by decide)]
  simp only
  rw [skipBlanks_cons h.1]
  split
  · rfl
  split
  · rename_i heq
    exact absurd (List.cons.inj heq).1 h.2
  · rfl

theorem takeValue_object (fuel room : Nat) (tail : Rest) :
    takeValue (fuel + 1) room ('{' :: '"' :: tail) =
      if room = 0 then none else takeMembers fuel (room - 1) [] ('"' :: tail) := by
  rw [takeValue, skipBlanks_cons (by decide)]
  simp only
  rw [skipBlanks_cons (by decide)]
  rfl

theorem takeValue_array_nil (fuel room : Nat) (rest : Rest) :
    takeValue (fuel + 1) room ('[' :: ']' :: rest) =
      if room = 0 then none else some (array [], rest) := by
  rw [takeValue, skipBlanks_cons (by decide)]
  simp only
  rw [skipBlanks_cons (by decide)]
  rfl

theorem takeValue_object_nil (fuel room : Nat) (rest : Rest) :
    takeValue (fuel + 1) room ('{' :: '}' :: rest) =
      if room = 0 then none else some (object [], rest) := by
  rw [takeValue, skipBlanks_cons (by decide)]
  simp only
  rw [skipBlanks_cons (by decide)]
  rfl

/-- An array or object takes one level, and leaves the others to its parts. -/
theorem within_room {α : Type} (room inner : Nat) (read : Option α) :
    (if room = 0 then none else if inner ≤ room - 1 then read else none) =
      if inner + 1 ≤ room then read else none := by
  by_cases hroom : room = 0
  · rw [if_pos hroom, if_neg (by omega)]
  · rw [if_neg hroom]
    exact if_congr (by omega) rfl rfl

/-- A member behind all others is put at the end. -/
theorem Members.insert_last {done : Members} {key : String} {value : Json}
    (h : ∀ member ∈ done, member.1 < key) : done.insert key value = done ++ [(key, value)] := by
  induction done with
  | nil => rfl
  | cons member done ih =>
      obtain ⟨k, v⟩ := member
      have hlt : k < key := h (k, v) List.mem_cons_self
      have hnot : ¬ key < k := fun hgt => String.lt_irrefl k (String.lt_trans hlt hgt)
      have hne : key ≠ k := fun heq => String.lt_irrefl k (heq ▸ hlt)
      rw [insert, if_neg hnot, if_neg hne,
        ih fun other hmem => h other (List.mem_cons_of_mem _ hmem)]
      rfl

/-! ## Reading back with some fuel -/

/-- With some fuel, values are read back if there is room for them. -/
def ReadsValues (fuel : Nat) : Prop :=
  ∀ (value : Json) (room : Nat) (rest : Rest), WellFormed Number.ReadsBack value →
    value.write.length ≤ fuel → EndsNumber rest →
    takeValue fuel room (value.write ++ rest) =
      if value.depth ≤ room then some (value, rest) else none

/-- With some fuel, the rest of an array is read back. -/
def ReadsItems (fuel : Nat) : Prop :=
  ∀ (item : Json) (items done : List Json) (room : Nat) (rest : Rest),
    (∀ value ∈ item :: items, WellFormed Number.ReadsBack value) →
    (writeItems (item :: items)).length < fuel →
    takeItems fuel room done (writeItems (item :: items) ++ ']' :: rest) =
      if depthOfItems (item :: items) ≤ room then
        some (array (done.reverse ++ item :: items), rest)
      else none

/-- With some fuel, the rest of an object is read back. -/
def ReadsMembers (fuel : Nat) : Prop :=
  ∀ (key : String) (value : Json) (members done : Members) (room : Nat) (rest : Rest),
    Members.Sorted (done ++ (key, value) :: members) →
    (∀ member ∈ (key, value) :: members, WellFormed Number.ReadsBack member.2) →
    (writeMembers ((key, value) :: members)).length < fuel →
    takeMembers fuel room done (writeMembers ((key, value) :: members) ++ '}' :: rest) =
      if depthOfMembers ((key, value) :: members) ≤ room then
        some (object (done ++ (key, value) :: members), rest)
      else none

theorem readsItems_succ {fuel : Nat} (hvalues : ReadsValues fuel) (hitems : ReadsItems fuel) :
    ReadsItems (fuel + 1) := by
  intro item items done room rest hwell hfuel
  have hitem := hwell item List.mem_cons_self
  -- what stands behind the item is a bracket or a comma, and both end a number
  cases items with
  | nil =>
      have hread := hvalues item room (']' :: rest) hitem
        (by simpa [writeItems, Nat.lt_succ_iff] using hfuel) (endsNumber_cons (by decide))
      rw [takeItems, writeItems, hread, depthOfItems, depthOfItems, Nat.max_zero]
      by_cases hroom : item.depth ≤ room
      · simp [hroom, skipBlanks_cons (show isBlank ']' = false by decide)]
      · simp [hroom]
  | cons next items =>
      have htext : writeItems (item :: next :: items) ++ ']' :: rest =
          item.write ++ ',' :: (writeItems (next :: items) ++ ']' :: rest) := by
        simp [writeItems]
      have hlength : (writeItems (item :: next :: items)).length =
          item.write.length + 1 + (writeItems (next :: items)).length := by
        simp [writeItems]
        omega
      have hread := hvalues item room (',' :: (writeItems (next :: items) ++ ']' :: rest)) hitem
        (by omega) (endsNumber_cons (by decide))
      have hothers := hitems next items (item :: done) room rest
        (fun value hmem => hwell value (List.mem_cons_of_mem _ hmem)) (by omega)
      rw [htext, takeItems, hread, depthOfItems]
      by_cases hroom : item.depth ≤ room
      · simp only [hroom, if_true, skipBlanks_cons (show isBlank ',' = false by decide), hothers,
          List.reverse_cons, List.append_assoc, List.cons_append, List.nil_append, Nat.max_le,
          true_and]
      · have hmax : ¬ max item.depth (depthOfItems (next :: items)) ≤ room := by omega
        simp only [hroom, hmax, if_false]

section

variable {fuel : Nat} {value : Json}

/-- One member is read, and then the others. -/
theorem takeMembers_next (hvalues : ReadsValues fuel) (hvalue : WellFormed Number.ReadsBack value)
    (hlength : value.write.length ≤ fuel) (key : String) (room : Nat) (done : Members)
    (tail : Rest) :
    takeMembers (fuel + 1) room done (stringText key ++ ':' :: (value.write ++ ',' :: tail)) =
      if value.depth ≤ room then takeMembers fuel room (done.insert key value) tail else none := by
  have hread := hvalues value room (',' :: tail) hvalue hlength (endsNumber_cons (by decide))
  rw [takeMembers, takeKey_stringText]
  simp only
  rw [hread]
  by_cases hroom : value.depth ≤ room
  · simp only [hroom, if_true, skipBlanks_cons (show isBlank ',' = false by decide)]
  · simp only [hroom, if_false]

/-- The last member is read, and then the object is complete. -/
theorem takeMembers_last (hvalues : ReadsValues fuel) (hvalue : WellFormed Number.ReadsBack value)
    (hlength : value.write.length ≤ fuel) (key : String) (room : Nat) (done : Members)
    (tail : Rest) :
    takeMembers (fuel + 1) room done (stringText key ++ ':' :: (value.write ++ '}' :: tail)) =
      if value.depth ≤ room then some (object (done.insert key value), tail) else none := by
  have hread := hvalues value room ('}' :: tail) hvalue hlength (endsNumber_cons (by decide))
  rw [takeMembers, takeKey_stringText]
  simp only
  rw [hread]
  by_cases hroom : value.depth ≤ room
  · simp only [hroom, if_true, skipBlanks_cons (show isBlank '}' = false by decide)]
  · simp only [hroom, if_false]

end

theorem writeMembers_singleton_append (key : String) (value : Json) (tail : Rest) :
    writeMembers [(key, value)] ++ tail = stringText key ++ ':' :: (value.write ++ tail) := by
  simp [writeMembers]

theorem writeMembers_cons_append (key : String) (value : Json) {members : Members}
    (hne : members ≠ []) (tail : Rest) :
    writeMembers ((key, value) :: members) ++ tail =
      stringText key ++ ':' :: (value.write ++ ',' :: (writeMembers members ++ tail)) := by
  cases members with
  | nil => exact absurd rfl hne
  | cons next members => simp [writeMembers]

theorem length_writeMembers_singleton (key : String) (value : Json) :
    value.write.length < (writeMembers [(key, value)]).length := by
  simp [writeMembers]
  omega

theorem length_writeMembers_cons (key : String) (value : Json) {members : Members}
    (hne : members ≠ []) :
    value.write.length + (writeMembers members).length <
      (writeMembers ((key, value) :: members)).length := by
  have htext := congrArg List.length (writeMembers_cons_append key value hne [])
  simp only [List.append_nil, List.length_append, List.length_cons] at htext
  omega

/-- Members behind others are read as what they make of these, whatever their order. -/
theorem takeMembers_pairs {fuel : Nat} (hvalues : ∀ less < fuel, ReadsValues less)
    {pairs : List (String × Json)} (hne : pairs ≠ [])
    (hwell : ∀ pair ∈ pairs, WellFormed Number.ReadsBack pair.2)
    (hfuel : (writeMembers pairs).length < fuel) (room : Nat) (done : Members) (rest : Rest) :
    takeMembers fuel room done (writeMembers pairs ++ '}' :: rest) =
      if depthOfMembers pairs ≤ room then
        some (object (pairs.foldl (fun known pair => Members.insert pair.1 pair.2 known) done), rest)
      else none := by
  induction pairs generalizing fuel done with
  | nil => exact absurd rfl hne
  | cons pair pairs ih =>
      obtain ⟨key, value⟩ := pair
      cases fuel with
      | zero => exact absurd hfuel (Nat.not_lt_zero _)
      | succ fuel =>
          have hread := hvalues fuel (Nat.lt_succ_self fuel)
          have hvalue : WellFormed Number.ReadsBack value := hwell (key, value) List.mem_cons_self
          by_cases hlast : pairs = []
          · subst hlast
            have hlength := length_writeMembers_singleton key value
            rw [writeMembers_singleton_append, takeMembers_last hread hvalue (by omega),
              depthOfMembers, depthOfMembers, Nat.max_zero]
            rfl
          · have hlength := length_writeMembers_cons key value hlast
            have hothers := ih (fun less hless => hvalues less (Nat.lt_succ_of_lt hless)) hlast
              (fun other hmem => hwell other (List.mem_cons_of_mem _ hmem)) (by omega)
              (done.insert key value)
            rw [writeMembers_cons_append _ _ hlast, takeMembers_next hread hvalue (by omega),
              depthOfMembers, List.foldl_cons, hothers]
            by_cases hroom : value.depth ≤ room
            · simp only [hroom, if_true, Nat.max_le, true_and]
            · have hmax : ¬ max value.depth (depthOfMembers pairs) ≤ room := by omega
              simp only [hroom, hmax, if_false]

/-- Members whose keys are sorted are appended. -/
theorem Members.foldl_insert_of_sorted {done members : Members} (h : Sorted (done ++ members)) :
    members.foldl (fun known member => insert member.1 member.2 known) done = done ++ members := by
  induction members generalizing done with
  | nil => rw [List.append_nil, List.foldl_nil]
  | cons member members ih =>
      have hlast : done.insert member.1 member.2 = done ++ [member] :=
        insert_last fun other hmem =>
          (List.pairwise_append.mp h).2.2 other hmem member List.mem_cons_self
      rw [List.foldl_cons, hlast, ih (by simpa using h), List.append_assoc, List.singleton_append]

theorem readsMembers_of_values {fuel : Nat} (hvalues : ∀ less < fuel, ReadsValues less) :
    ReadsMembers fuel := by
  intro key value members done room rest hsorted hwell hfuel
  rw [takeMembers_pairs hvalues (List.cons_ne_nil _ _) hwell hfuel,
    Members.foldl_insert_of_sorted hsorted]

theorem readsValues_succ {fuel : Nat} (hitems : ReadsItems fuel) (hmembers : ReadsMembers fuel) :
    ReadsValues (fuel + 1) := by
  intro value room rest hwell hfuel hend
  cases hwell with
  | null => rfl
  | bool b => cases b <;> rfl
  | number hread =>
      obtain ⟨c, tail, htext, hc⟩ := head_of_readsBack hread
      obtain ⟨hstart, harray, hobject⟩ := startsValue_of_number hc
      have htake := takeScalar_append hend (Number.readsBack_iff.mp hread)
      rw [htext, List.cons_append] at htake
      rw [write, htext, List.cons_append, takeValue_scalar hstart.1 harray hobject, htake]
      rfl
  | string text =>
      obtain ⟨inner, htext, hread⟩ := takeString_stringText text rest
      rw [write, htext, takeValue_scalar (by decide) (by decide) (by decide), takeScalar_quote,
        hread]
      rfl
  | @array items hwell =>
      cases items with
      | nil =>
          have hread := takeValue_array_nil fuel room rest
          exact hread.trans (within_room room 0 (some (array [], rest)))
      | cons item items =>
          obtain ⟨c, tail, htext, hstart⟩ := write_head (hwell item List.mem_cons_self)
          obtain ⟨others, hothers⟩ := writeItems_cons item items
          have hread := hitems item items [] (room - 1) rest hwell (by simp [write] at hfuel; omega)
          rw [hothers, htext] at hread
          rw [write, hothers, htext]
          simp only [List.cons_append, List.append_assoc, List.nil_append] at hread ⊢
          rw [takeValue_array hstart, hread]
          exact within_room room _ _
  | @object members hsorted hwell =>
      cases members with
      | nil =>
          have hread := takeValue_object_nil fuel room rest
          exact hread.trans (within_room room 0 (some (object [], rest)))
      | cons member members =>
          obtain ⟨key, value⟩ := member
          obtain ⟨others, hothers⟩ := writeMembers_cons key value members
          have hread := hmembers key value members [] (room - 1) rest hsorted hwell
            (by simp [write] at hfuel; omega)
          rw [hothers] at hread
          rw [write, hothers]
          simp only [List.cons_append, List.append_assoc, List.nil_append] at hread ⊢
          rw [takeValue_object, hread]
          exact within_room room _ _

/-- Values and the rests of arrays are read back with any fuel. -/
theorem reads (fuel : Nat) : (∀ less ≤ fuel, ReadsValues less) ∧ ReadsItems fuel := by
  induction fuel with
  | zero =>
      refine ⟨?_, fun _ _ _ _ _ _ hfuel => absurd hfuel (Nat.not_lt_zero _)⟩
      intro less hless value room rest hwell hfuel
      obtain ⟨c, tail, htext, -⟩ := write_head hwell
      simp [htext] at hfuel
      omega
  | succ fuel ih =>
      obtain ⟨hvalues, hitems⟩ := ih
      have hmembers : ReadsMembers fuel :=
        readsMembers_of_values fun less hless => hvalues less (Nat.le_of_lt hless)
      refine ⟨?_, readsItems_succ (hvalues fuel (Nat.le_refl fuel)) hitems⟩
      intro less hless
      rcases Nat.le_succ_iff.mp hless with hless | rfl
      · exact hvalues less hless
      · exact readsValues_succ hitems hmembers

theorem readsValues (fuel : Nat) : ReadsValues fuel :=
  (reads fuel).1 fuel (Nat.le_refl fuel)

/-! ## Whole documents -/

/-- A document is read if nothing is left of its text. -/
theorem read?_encode {text : List Char} {value : Json} {P : Prop} [Decidable P]
    (h : takeValue (2 * text.length + 2) maxDepth text = if P then some (value, []) else none) :
    read? (Utf8.encode text) = if P then some value else none := by
  rw [read?, Utf8.decode?_encode, Option.bind_some, readChars?, h]
  by_cases hread : P
  · rw [if_pos hread, if_pos hread]
    rfl
  · rw [if_neg hread, if_neg hread]

/-- **A written value is read back up to 127 levels, and refused beyond.** -/
theorem read?_write {value : Json} (h : WellFormed Number.ReadsBack value) :
    read? (Utf8.encode value.write) = if value.depth ≤ 127 then some value else none := by
  have hread := readsValues (2 * value.write.length + 2) value maxDepth [] h (by omega)
    endsNumber_nil
  rw [List.append_nil] at hread
  exact read?_encode hread

/-- **An object is read back whatever the order of its members is**: of two with one key the later one
stays. -/
theorem read?_write_object {pairs : List (String × Json)}
    (hwell : ∀ pair ∈ pairs, WellFormed Number.ReadsBack pair.2) :
    read? (Utf8.encode (object pairs).write) =
      if (object pairs).depth ≤ 127 then some (ofList pairs) else none := by
  cases pairs with
  | nil => exact read?_write wellFormed_empty
  | cons pair others =>
      obtain ⟨key, value⟩ := pair
      obtain ⟨behind, htext⟩ := writeMembers_cons key value others
      apply read?_encode
      have hmembers := takeMembers_pairs (fun less _ => readsValues less) (List.cons_ne_nil _ _) hwell
        (show (writeMembers ((key, value) :: others)).length <
          2 * (object ((key, value) :: others)).write.length + 1 by simp [write]; omega)
        (maxDepth - 1) [] []
      simp only [write, htext, List.cons_append] at hmembers ⊢
      rw [takeValue_object, hmembers]
      exact within_room maxDepth _ _

end ServiceHost.Json
