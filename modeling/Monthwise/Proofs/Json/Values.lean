import Mathlib.Data.String.Basic
import Monthwise.Proofs.Calendar.ScannedDate
import Monthwise.Proofs.Json.Records

/-! # Values come back

A value that was read has a shape: integers fit into 64 bits, the keys of an object stand in
ascending order, and the nesting is limited. A value of that shape in which all numbers are
integers is found again where it is written.
-/

namespace Monthwise.Decimal

theorem digit_ne_zero {n : Nat} (h : n % 10 ≠ 0) : digit n ≠ '0' := by
  intro heq
  have htoNat := toNat_digit n
  rw [heq] at htoNat
  change 48 = 48 + n % 10 at htoNat
  omega

/-- Only zero is written with a zero in front. -/
theorem head_digits {n : Nat} (hn : n ≠ 0) : ∃ c ds, digits n = c :: ds ∧ c ≠ '0' := by
  induction n using digits.induct with
  | case1 n hsmall =>
      rw [digits, if_pos hsmall]
      exact ⟨_, _, rfl, digit_ne_zero (by omega)⟩
  | case2 n hlarge ih =>
      obtain ⟨c, ds, hdigits, hc⟩ := ih (by omega)
      rw [digits, if_neg hlarge, hdigits]
      exact ⟨c, _, rfl, hc⟩

end Monthwise.Decimal

namespace Monthwise.Json

/-- What is read as a value whose arrays and objects are nested at most so deep. -/
inductive Shaped : (depth : Nat) → Json → Prop
  | null {depth : Nat} : Shaped depth .null
  | bool {depth : Nat} (b : Bool) : Shaped depth (.bool b)
  | int {depth : Nat} {n : Int} : Numeral.fits (n < 0) n.natAbs → Shaped depth (.int n)
  | float {depth : Nat} (x : Float) : Shaped depth (.float x)
  | str {depth : Nat} (s : String) : Shaped depth (.str s)
  | arr {depth : Nat} {items : List Json} : (∀ v ∈ items, Shaped depth v) →
      Shaped (depth + 1) (.arr items)
  | obj {depth : Nat} {members : List (String × Json)} :
      members.Pairwise (fun m m' => m.1 < m'.1) → (∀ m ∈ members, Shaped depth m.2) →
      Shaped (depth + 1) (.obj members)

/-- All numbers in the value are integers. -/
inductive Whole : Json → Prop
  | null : Whole .null
  | bool (b : Bool) : Whole (.bool b)
  | int (n : Int) : Whole (.int n)
  | str (s : String) : Whole (.str s)
  | arr {items : List Json} : (∀ v ∈ items, Whole v) → Whole (.arr items)
  | obj {members : List (String × Json)} : (∀ m ∈ members, Whole m.2) → Whole (.obj members)

/-- What is read as the members of an object. -/
def ShapedMembers (depth : Nat) (members : List (String × Json)) : Prop :=
  members.Pairwise (fun m m' => m.1 < m'.1) ∧ ∀ m ∈ members, Shaped depth m.2

/-- Reads one more item of an array; the last one that was read stands in front. -/
def pushItem (depth : Nat) (items : List Json) : Reader (List Json) := fun cs => do
  let (v, cs) ← value depth cs
  return (v :: items, cs)

/-- Reads the value of one more member of an object. -/
def putMember (depth : Nat) (key : String) (members : List (String × Json)) :
    Reader (List (String × Json)) := fun cs => do
  let cs ← colon cs
  let (v, cs) ← value depth cs
  return (insertMember key v members, cs)

section Members

variable {key : String} {value v : Json} {members : List (String × Json)}

theorem mem_insertMember {m : String × Json} (hm : m ∈ insertMember key value members) :
    m = (key, value) ∨ m ∈ members := by
  induction members with
  | nil => exact .inl (List.mem_singleton.mp hm)
  | cons first rest ih =>
      obtain ⟨k, v⟩ := first
      rw [insertMember] at hm
      split_ifs at hm with hlt heq
      · exact List.mem_cons.mp hm
      · exact (List.mem_cons.mp hm).imp_right (List.mem_cons_of_mem _)
      · rcases List.mem_cons.mp hm with rfl | hrest
        · exact .inr List.mem_cons_self
        · exact (ih hrest).imp_right (List.mem_cons_of_mem _)

/-- The keys stay in ascending order. -/
theorem pairwise_insertMember (h : members.Pairwise fun m m' => m.1 < m'.1) :
    (insertMember key value members).Pairwise fun m m' => m.1 < m'.1 := by
  induction members with
  | nil => exact List.pairwise_singleton _ _
  | cons first rest ih =>
      obtain ⟨k, v⟩ := first
      obtain ⟨hfirst, hrest⟩ := List.pairwise_cons.mp h
      rw [insertMember]
      split_ifs with hlt heq
      · refine List.pairwise_cons.mpr ⟨fun m hm => ?_, h⟩
        rcases List.mem_cons.mp hm with rfl | hm
        · exact hlt
        · exact String.lt_trans hlt (hfirst m hm)
      · subst heq
        exact List.pairwise_cons.mpr ⟨hfirst, hrest⟩
      · refine List.pairwise_cons.mpr ⟨fun m hm => ?_, ih hrest⟩
        rcases mem_insertMember hm with rfl | hm
        · exact lt_of_le_of_ne (not_lt.mp hlt) (Ne.symm heq)
        · exact hfirst m hm

/-- A member whose key comes after all others is put at the end. -/
theorem insertMember_of_lt (h : ∀ m ∈ members, m.1 < key) :
    insertMember key value members = members ++ [(key, value)] := by
  induction members with
  | nil => rfl
  | cons first rest ih =>
      obtain ⟨k, v⟩ := first
      have hk : k < key := h _ List.mem_cons_self
      rw [insertMember, if_neg (lt_asymm hk), if_neg (ne_of_gt hk),
        ih fun m hm => h m (List.mem_cons_of_mem _ hm)]
      rfl

end Members

section Shapes

variable {depth : Nat} {v : Json} {cs rest : List Char}

theorem shaped_of_value? {n : Numeral} (h : n.value? = some v) : Shaped depth v := by
  unfold Numeral.value? at h
  simp only at h
  split_ifs at h with hint hnegative
  · obtain rfl := Option.some.inj h
    obtain ⟨-, -, hfits⟩ := hint
    apply Shaped.int
    rw [hnegative] at hfits
    have hpositive : 0 < Decimal.value n.whole := by
      simp only [Numeral.fits, ↓reduceIte, Bool.and_eq_true, decide_eq_true_eq] at hfits
      exact hfits.1
    rw [decide_eq_true (by omega), Int.natAbs_neg, Int.natAbs_natCast]
    exact hfits
  · obtain rfl := Option.some.inj h
    obtain ⟨-, -, hfits⟩ := hint
    apply Shaped.int
    rw [Bool.not_eq_true] at hnegative
    rw [hnegative] at hfits
    rw [decide_eq_false (by omega), Int.natAbs_natCast]
    exact hfits
  · obtain ⟨x, -, rfl⟩ := Option.map_eq_some_iff.mp h
    exact .float x

theorem shaped_of_number {negative : Bool} (h : number negative cs = .ok (v, rest)) :
    Shaped depth v := by
  unfold number at h
  split at h
  · cases h
  · split at h
    · next hvalue =>
        obtain ⟨rfl, -⟩ := Prod.mk.inj (Except.ok.inj h)
        exact shaped_of_value? hvalue
    · cases h

theorem shaped_of_pushItem (hinner : ∀ v cs rest, value depth cs = .ok (v, rest) → Shaped depth v)
    {items items' : List Json} (hitems : ∀ v ∈ items, Shaped depth v)
    (h : pushItem depth items cs = .ok (items', rest)) : ∀ v ∈ items', Shaped depth v := by
  obtain ⟨⟨v, _⟩, hv, h⟩ := bind_eq_ok_iff.mp h
  obtain ⟨rfl, -⟩ := Prod.mk.inj (Except.ok.inj h)
  exact List.forall_mem_cons.mpr ⟨hinner _ _ _ hv, hitems⟩

theorem ShapedMembers.putMember
    (hinner : ∀ v cs rest, value depth cs = .ok (v, rest) → Shaped depth v) {key : String}
    {members members' : List (String × Json)} (hmembers : ShapedMembers depth members)
    (h : putMember depth key members cs = .ok (members', rest)) :
    ShapedMembers depth members' := by
  obtain ⟨_, -, h⟩ := bind_eq_ok_iff.mp h
  obtain ⟨⟨v, _⟩, hv, h⟩ := bind_eq_ok_iff.mp h
  obtain ⟨rfl, -⟩ := Prod.mk.inj (Except.ok.inj h)
  refine ⟨pairwise_insertMember hmembers.1, fun m hm => ?_⟩
  rcases mem_insertMember hm with rfl | hm
  · exact hinner _ _ _ hv
  · exact hmembers.2 m hm

/-- The step from one depth to the next. -/
theorem shaped_of_inner
    (hinner : ∀ depth', depth = depth' + 1 → ∀ v cs rest, value depth' cs = .ok (v, rest) →
      Shaped depth' v) (h : value depth cs = .ok (v, rest)) : Shaped depth v := by
  have hword {word : Except Fault (List Char)} {w : Json} (hw : Shaped depth w)
      (h : (word.map fun rest => (w, rest)) = .ok (v, rest)) : Shaped depth v := by
    obtain ⟨_, -, heq⟩ := map_eq_ok_iff.mp h
    obtain ⟨rfl, -⟩ := Prod.mk.inj heq
    exact hw
  unfold value at h
  split at h
  · cases h
  · split at h
    · exact hword .null h
    · exact hword (.bool true) h
    · exact hword (.bool false) h
    · exact shaped_of_number h
    · obtain ⟨_, -, heq⟩ := map_eq_ok_iff.mp h
      obtain ⟨rfl, -⟩ := Prod.mk.inj heq
      exact .str _
    · split at h
      · cases h
      · next depth =>
          obtain ⟨⟨items, after⟩, hitems, h⟩ := bind_eq_ok_iff.mp h
          obtain ⟨_, -, h⟩ := bind_eq_ok_iff.mp h
          obtain ⟨rfl, -⟩ := Prod.mk.inj (Except.ok.inj h)
          have hshaped : ∀ v ∈ items, Shaped depth v :=
            foldItems_invariant (pushItem depth)
              (fun _ _ _ _ => shaped_of_pushItem (hinner depth rfl)) (by simp) hitems
          exact .arr fun v hv => hshaped v (List.mem_reverse.mp hv)
    · split at h
      · cases h
      · next depth =>
          obtain ⟨⟨members, after⟩, hmembers, h⟩ := bind_eq_ok_iff.mp h
          obtain ⟨_, -, h⟩ := bind_eq_ok_iff.mp h
          obtain ⟨rfl, -⟩ := Prod.mk.inj (Except.ok.inj h)
          have hshaped : ShapedMembers depth members :=
            foldMembers_invariant (putMember depth)
              (fun _ _ _ _ _ => ShapedMembers.putMember (hinner depth rfl)) ⟨.nil, by simp⟩ hmembers
          exact .obj hshaped.1 hshaped.2
    · split_ifs at h
      exact shaped_of_number h

/-- Whatever is read has its shape. -/
theorem shaped_of_read (h : value depth cs = .ok (v, rest)) : Shaped depth v := by
  induction depth generalizing cs v rest with
  | zero => exact shaped_of_inner (fun _ h => nomatch h) h
  | succ depth ih =>
      refine shaped_of_inner (fun depth' heq v cs rest h => ?_) h
      obtain rfl := Nat.succ.inj heq
      exact ih h

end Shapes

section Numbers

variable {rest : List Char}

theorem Closes.scanFraction (h : Closes rest) : Numeral.scanFraction rest = .ok ([], rest) := by
  cases rest with
  | nil => rfl
  | cons c rest =>
      rcases h c rfl with rfl | rfl | rfl
      all_goals rfl

theorem Closes.scanExponent (h : Closes rest) : Numeral.scanExponent rest = .ok (none, rest) := by
  cases rest with
  | nil => rfl
  | cons c rest =>
      rcases h c rfl with rfl | rfl | rfl
      all_goals rfl

theorem Closes.head_isDigit (h : Closes rest) : ∀ c ∈ rest.head?, c.isDigit = false := by
  intro c hc
  rcases h c hc with rfl | rfl | rfl
  all_goals decide

theorem scanWhole_digits (n : Nat) (h : Closes rest) :
    Numeral.scanWhole (Decimal.digits n ++ rest) = .ok (Decimal.digits n, rest) := by
  have hrest := h.head_isDigit
  by_cases hn : n = 0
  · subst hn
    have hzero : Decimal.digits 0 = ['0'] := by
      rw [Decimal.digits]
      rfl
    rw [hzero]
    cases rest with
    | nil => rfl
    | cons c rest =>
        have hc : c.isDigit = false := hrest c rfl
        simp [Numeral.scanWhole, hc]
  · obtain ⟨c, ds, hdigits, hc⟩ := Decimal.head_digits hn
    obtain ⟨htake, hdrop⟩ := Scan.takeWhile_isDigit
      (fun d (hd : d ∈ Decimal.digits n) => Decimal.isDigit_of_mem_digits hd) hrest
    rw [hdigits] at htake hdrop ⊢
    rw [List.cons_append] at htake hdrop ⊢
    rw [Numeral.scanWhole]
    · rw [Numeral.someDigits, htake, hdrop]
    · exact fun _ heq => hc (List.cons.inj heq).1

theorem number_digits {negative : Bool} {n : Nat} (hfits : Numeral.fits negative n)
    (h : Closes rest) : number negative (Decimal.digits n ++ rest) =
      .ok (.int (if negative then -(n : Int) else n), rest) := by
  have hscan : Numeral.scan negative (Decimal.digits n ++ rest) =
      .ok (⟨negative, Decimal.digits n, [], none⟩, rest) := by
    simp only [Numeral.scan, scanWhole_digits n h, h.scanFraction, h.scanExponent, bind,
      Except.bind]
    rfl
  have hvalue : Numeral.value? ⟨negative, Decimal.digits n, [], none⟩ =
      some (.int (if negative then -(n : Int) else n)) := by
    simp only [Numeral.value?, Decimal.value_digits, hfits, and_self, ↓reduceIte]
  simp only [number, hscan, hvalue]

end Numbers

section Texts

variable {depth fuel : Nat} {v : Json} {items : List Json} {cs rest : List Char}

theorem skipSpace_cons {c : Char} (hc : isSpace c = false) (cs : List Char) :
    skipSpace (c :: cs) = c :: cs := List.dropWhile_cons_of_neg (by simp [hc])

theorem isSpace_of_isDigit {c : Char} (hc : c.isDigit) : isSpace c = false := by
  by_contra hspace
  simp only [isSpace, Bool.not_eq_false, Bool.or_eq_true, beq_iff_eq] at hspace
  obtain ((rfl | rfl) | rfl) | rfl := hspace
  all_goals exact absurd hc (by decide)

theorem value_of_isDigit {c : Char} (hc : c.isDigit) (cs : List Char) :
    value depth (c :: cs) = number false (c :: cs) := by
  unfold value
  rw [skipSpace_cons (isSpace_of_isDigit hc)]
  simp only
  split
  all_goals first
    | (exact absurd hc (by decide))
    | simp only [hc, ↓reduceIte]

theorem value_minus (cs : List Char) : value depth ('-' :: cs) = number true cs := by
  unfold value
  rfl

theorem exists_digits (n : Nat) : ∃ c ds, Decimal.digits n = c :: ds ∧ c.isDigit := by
  obtain ⟨c, ds, hdigits⟩ := List.exists_cons_of_ne_nil (Decimal.digits_ne_nil n)
  exact ⟨c, ds, hdigits, Decimal.isDigit_of_mem_digits (hdigits ▸ List.mem_cons_self)⟩

theorem yields_int {n : Int} (h : Numeral.fits (n < 0) n.natAbs) :
    Yields (value depth) (Json.int n).chars (.int n) := by
  intro rest hrest
  have hread := number_digits h hrest
  rw [chars, Decimal.signed]
  by_cases hneg : n < 0
  · rw [decide_eq_true hneg] at hread
    rw [if_pos hneg, List.cons_append, value_minus, hread]
    congr 3
    simp only [↓reduceIte]
    omega
  · rw [decide_eq_false hneg] at hread
    obtain ⟨c, ds, hdigits, hc⟩ := exists_digits n.natAbs
    rw [if_neg hneg, hdigits, List.cons_append, value_of_isDigit hc, ← List.cons_append,
      ← hdigits, hread]
    congr 3
    simp only [Bool.false_eq_true, ↓reduceIte]
    omega

theorem yields_str (s : String) : Yields (value depth) (Json.str s).chars (.str s) := by
  intro rest _
  have hskip : skipSpace ((Json.str s).chars ++ rest) =
      '"' :: (s.toList.flatMap escape ++ '"' :: rest) := by
    simp [chars, quote, skipSpace, isSpace]
  unfold value
  rw [hskip]
  simp only [stringRest_escape]
  rfl

/-- A value begins with a character that neither is passed over nor ends an array. -/
theorem Whole.opens (h : Whole v) :
    ∃ c cs, v.chars = c :: cs ∧ isSpace c = false ∧ c ≠ ']' := by
  cases h with
  | null => exact ⟨_, _, rfl, by decide, by decide⟩
  | bool b => cases b <;> exact ⟨_, _, rfl, by decide, by decide⟩
  | int n =>
      rw [chars, Decimal.signed]
      split_ifs
      · exact ⟨_, _, rfl, by decide, by decide⟩
      · obtain ⟨c, ds, hdigits, hc⟩ := exists_digits n.natAbs
        refine ⟨c, ds, hdigits, isSpace_of_isDigit hc, ?_⟩
        rintro rfl
        exact absurd hc (by decide)
  | str s =>
      rw [chars, quote]
      exact ⟨_, _, rfl, by decide, by decide⟩
  | arr =>
      rw [chars]
      exact ⟨_, _, rfl, by decide, by decide⟩
  | obj =>
      rw [chars]
      exact ⟨_, _, rfl, by decide, by decide⟩

theorem Whole.nextItem_opened (h : Whole v) (rest : List Char) :
    nextItem true (v.chars ++ rest) = .ok (some (v.chars ++ rest)) := by
  obtain ⟨c, cs, hchars, hspace, hbracket⟩ := h.opens
  rw [hchars, List.cons_append, nextItem, skipSpace_cons hspace]
  split
  · next heq => cases heq
  · next heq => exact absurd (List.cons.inj heq).1 hbracket
  · next heq => simp only [↓reduceIte, ← heq]

theorem Whole.nextItem_further (h : Whole v) (rest : List Char) :
    nextItem false (',' :: (v.chars ++ rest)) = .ok (some (v.chars ++ rest)) := by
  obtain ⟨c, cs, hchars, hspace, hbracket⟩ := h.opens
  have hcomma (cs : List Char) : skipSpace (',' :: cs) = ',' :: cs := skipSpace_cons (by decide) cs
  rw [hchars, List.cons_append]
  simp only [nextItem, hcomma, Bool.false_eq_true, ↓reduceIte]
  split
  · next heq => cases heq
  · next heq => exact absurd (List.cons.inj heq).1 (by decide)
  · next heq =>
      obtain ⟨rfl, rfl⟩ := List.cons.inj heq
      simp only [↓reduceIte, skipSpace_cons hspace]
      split
      · next heq => cases heq
      · next heq => exact absurd (List.cons.inj heq).1 hbracket
      · rfl

/-- An item with the comma before it. -/
def furtherItem (v : Json) : List Char := ',' :: v.chars

theorem itemChars_cons (v : Json) (items : List Json) :
    itemChars (v :: items) = v.chars ++ items.flatMap furtherItem := by
  induction items generalizing v with
  | nil =>
      rw [List.flatMap_nil, List.append_nil]
      rfl
  | cons w items ih =>
      have hcons : itemChars (v :: w :: items) = v.chars ++ ',' :: itemChars (w :: items) := rfl
      rw [hcons, ih, List.flatMap_cons, furtherItem, List.cons_append]

theorem closes_furtherItems (items : List Json) (rest : List Char) :
    Closes (items.flatMap furtherItem ++ ']' :: rest) := by
  intro c hc
  cases items with
  | nil =>
      obtain rfl := Option.some.inj hc
      exact .inr (.inl rfl)
  | cons v items =>
      obtain rfl := Option.some.inj hc
      exact .inl rfl

theorem pushItem_of_yields (h : Yields (value depth) v.chars v) (hrest : Closes rest)
    (items : List Json) : pushItem depth items (v.chars ++ rest) = .ok (v :: items, rest) := by
  simp only [pushItem, h rest hrest, bind, Except.bind]
  rfl

theorem foldItems_further (hwhole : ∀ v ∈ items, Whole v)
    (hread : ∀ v ∈ items, Yields (value depth) v.chars v) (hfuel : items.length < fuel)
    (before : List Json) (rest : List Char) :
    foldItems (pushItem depth) fuel false before (items.flatMap furtherItem ++ ']' :: rest) =
      .ok (items.reverse ++ before, ']' :: rest) := by
  induction items generalizing fuel before with
  | nil =>
      cases fuel with
      | zero => exact absurd hfuel (Nat.lt_irrefl 0)
      | succ fuel => rfl
  | cons v items ih =>
      obtain ⟨hv, hitems⟩ := List.forall_mem_cons.mp hwhole
      obtain ⟨hreadv, hreaditems⟩ := List.forall_mem_cons.mp hread
      cases fuel with
      | zero => exact absurd hfuel (Nat.not_lt_zero _)
      | succ fuel =>
          rw [List.flatMap_cons, furtherItem, List.cons_append, List.cons_append, List.append_assoc]
          simp only [foldItems, hv.nextItem_further, bind, Except.bind,
            pushItem_of_yields hreadv (closes_furtherItems items rest)]
          rw [ih hitems hreaditems (Nat.lt_of_succ_lt_succ hfuel), List.reverse_cons,
            List.append_assoc]
          rfl

theorem foldItems_itemChars (hwhole : ∀ v ∈ items, Whole v)
    (hread : ∀ v ∈ items, Yields (value depth) v.chars v) (hfuel : items.length < fuel)
    (rest : List Char) :
    foldItems (pushItem depth) fuel true [] (itemChars items ++ ']' :: rest) =
      .ok (items.reverse, ']' :: rest) := by
  cases fuel with
  | zero => exact absurd hfuel (Nat.not_lt_zero _)
  | succ fuel =>
      cases items with
      | nil => rfl
      | cons v items =>
          obtain ⟨hv, hitems⟩ := List.forall_mem_cons.mp hwhole
          obtain ⟨hreadv, hreaditems⟩ := List.forall_mem_cons.mp hread
          rw [itemChars_cons, List.append_assoc]
          simp only [foldItems, hv.nextItem_opened, bind, Except.bind,
            pushItem_of_yields hreadv (closes_furtherItems items rest)]
          -- from here on every item has a comma before it
          rw [foldItems_further hitems hreaditems (Nat.lt_of_succ_lt_succ hfuel), List.reverse_cons]

theorem length_le_furtherItems (items : List Json) :
    items.length ≤ (items.flatMap furtherItem).length := by
  induction items with
  | nil => exact Nat.zero_le _
  | cons v items ih =>
      rw [List.flatMap_cons, furtherItem, List.length_append, List.length_cons, List.length_cons]
      omega

theorem length_le_itemChars (hwhole : ∀ v ∈ items, Whole v) :
    items.length ≤ (itemChars items).length := by
  cases items with
  | nil => exact Nat.zero_le _
  | cons v items =>
      obtain ⟨c, cs, hchars, -, -⟩ := (hwhole v List.mem_cons_self).opens
      have hitems := length_le_furtherItems items
      rw [itemChars_cons, hchars, List.length_append, List.length_cons, List.length_cons]
      omega

theorem yields_arr (hwhole : ∀ v ∈ items, Whole v)
    (hread : ∀ v ∈ items, Yields (value depth) v.chars v) :
    Yields (value (depth + 1)) (Json.arr items).chars (.arr items) := by
  intro rest _
  have hskip : skipSpace ((Json.arr items).chars ++ rest) =
      '[' :: (itemChars items ++ ']' :: rest) := by
    simp [chars, skipSpace, isSpace]
  have hfuel : items.length < (itemChars items ++ ']' :: rest).length + 1 := by
    have := length_le_itemChars hwhole
    rw [List.length_append]
    omega
  have hitems := foldItems_itemChars hwhole hread hfuel rest
  have hend : endItems (']' :: rest) = .ok rest := rfl
  unfold value
  rw [hskip]
  change (foldItems (pushItem depth) _ true [] _ >>= _) = _
  rw [hitems]
  simp only [bind, Except.bind, hend, List.reverse_reverse]
  rfl

theorem takes_putMember {members before : List (String × Json)}
    (hkeys : (before ++ members).Pairwise fun m m' => m.1 < m'.1)
    (hread : ∀ m ∈ members, Yields (value depth) m.2.chars m.2) :
    Takes (putMember depth) before members (before ++ members) := by
  induction members generalizing before with
  | nil =>
      rw [List.append_nil]
      exact .nil
  | cons m members ih =>
      obtain ⟨key, v⟩ := m
      obtain ⟨hreadv, hreadmembers⟩ := List.forall_mem_cons.mp hread
      have hlast : ∀ m ∈ before, m.1 < key := fun m hm =>
        (List.pairwise_append.mp hkeys).2.2 m hm _ List.mem_cons_self
      have hone : Yields (putMember depth key before) (':' :: v.chars) (before ++ [(key, v)]) := by
        intro rest hrest
        have hcolon : colon (':' :: (v.chars ++ rest)) = .ok (v.chars ++ rest) := rfl
        simp only [List.cons_append, putMember, hcolon, bind, Except.bind, hreadv rest hrest,
          insertMember_of_lt hlast]
        rfl
      rw [List.append_cons] at hkeys ⊢
      exact .cons hone (ih hkeys hreadmembers)

theorem yields_obj {members : List (String × Json)}
    (hkeys : members.Pairwise fun m m' => m.1 < m'.1)
    (hread : ∀ m ∈ members, Yields (value depth) m.2.chars m.2) :
    Yields (value (depth + 1)) (Json.obj members).chars (.obj members) := by
  intro rest _
  have htakes : Takes (putMember depth) [] members ([] ++ members) := takes_putMember hkeys hread
  have hmembers := htakes.foldMembers_length rest
  have hend : endMembers ('\x7d' :: rest) = .ok rest := rfl
  unfold value
  rw [skipSpace_obj]
  change (foldMembers true (putMember depth) _ true [] _ >>= _) = _
  rw [hmembers]
  simp only [bind, Except.bind, hend, List.nil_append]
  rfl

/-- A value without floating-point numbers that was read is read again where it is written. -/
theorem Shaped.yields (hshape : Shaped depth v) (hwhole : Whole v) :
    Yields (value depth) v.chars v := by
  induction hshape with
  | null =>
      intro rest _
      unfold value
      rfl
  | bool b =>
      intro rest _
      unfold value
      cases b <;> rfl
  | int hfits => exact yields_int hfits
  | float x => cases hwhole
  | str s => exact yields_str s
  | arr _ ih =>
      cases hwhole with
      | arr hitems => exact yields_arr hitems fun v hv => ih v hv (hitems v hv)
  | obj hkeys _ ih =>
      cases hwhole with
      | obj hmembers => exact yields_obj hkeys fun m hm => ih m hm (hmembers m hm)

end Texts

section Equality

variable {v : Json}

theorem eqItems_self {items : List Json} (h : ∀ v ∈ items, v.eq v) : eqItems items items := by
  induction items with
  | nil => rfl
  | cons v items ih =>
      obtain ⟨hv, hitems⟩ := List.forall_mem_cons.mp h
      rw [eqItems, Bool.and_eq_true]
      exact ⟨hv, ih hitems⟩

theorem eqMembers_self {members : List (String × Json)} (h : ∀ m ∈ members, m.2.eq m.2) :
    eqMembers members members := by
  induction members with
  | nil => rfl
  | cons m members ih =>
      obtain ⟨hm, hmembers⟩ := List.forall_mem_cons.mp h
      rw [eqMembers, Bool.and_eq_true, Bool.and_eq_true]
      exact ⟨⟨beq_self_eq_true m.1, hm⟩, ih hmembers⟩

/-- Without floating-point numbers, among which there may be one that is not even equal to itself,
a value is equal to itself. -/
theorem Whole.eq_self (h : Whole v) : v.eq v := by
  induction h with
  | null => rfl
  | bool b => exact beq_self_eq_true b
  | int n => exact beq_self_eq_true n
  | str s => exact beq_self_eq_true s
  | arr _ ih => exact eqItems_self ih
  | obj _ ih => exact eqMembers_self ih

end Equality

end Monthwise.Json
