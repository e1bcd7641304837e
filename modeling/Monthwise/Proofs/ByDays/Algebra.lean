import Monthwise.Period.Algebra
import Monthwise.Proofs.ByDays.Construction

/-! # The algebra of periods by days

Common part, union, remainder and shift, computed from the ends of periods: with the
earlier and the later of two dates, the day before and the day after, and month
numbers only where months are counted. Each computation has the name of the one by
month numbers, and the same result: the ends that come out are always fit to be
assembled.
-/

namespace Monthwise

namespace Period

variable {p q r : Period}

theorem start_le_start_iff : p.start ≤ q.start ↔ p.first ≤ q.first := by
  rw [start, Calendar.firstDay_le_iff, monthNumber_start]

theorem start_le_stop_iff : p.start ≤ q.stop ↔ p.first ≤ q.last := by
  rw [start, Calendar.firstDay_le_iff, monthNumber_stop]

theorem stop_le_stop_iff : p.stop ≤ q.stop ↔ p.last ≤ q.last := by
  rw [stop, stop, Calendar.le_lastDay_iff, Date.monthNumber_lastDay]

theorem start_lt_start_iff : p.start < q.start ↔ p.first < q.first := by
  rw [← Decidable.not_iff_not, Date.not_lt, start_le_start_iff, Int.not_lt]

theorem stop_lt_stop_iff : p.stop < q.stop ↔ p.last < q.last := by
  rw [← Decidable.not_iff_not, Date.not_lt, stop_le_stop_iff, Int.not_lt]

theorem start_congr (h : p.first = q.first) : p.start = q.start := by
  simp only [start, h]

theorem stop_congr (h : p.last = q.last) : p.stop = q.stop := by
  simp only [stop, h]

theorem ends_of_intersect? (h : p.intersect? q = some r) :
    max p.first q.first ≤ min p.last q.last ∧
      r.first = max p.first q.first ∧ r.last = min p.last q.last := by
  unfold intersect? at h
  split_ifs at h with hmeet
  obtain rfl := Option.some.inj h
  exact ⟨hmeet, rfl, rfl⟩

theorem ends_of_partBefore? (h : p.partBefore? q = some r) :
    p.first < q.first ∧ r.first = p.first ∧ r.last + 1 = q.first := by
  unfold partBefore? at h
  split_ifs at h with hlt
  obtain rfl := Option.some.inj h
  exact ⟨hlt, rfl, Int.sub_add_cancel _ _⟩

theorem ends_of_partAfter? (h : p.partAfter? q = some r) :
    q.last < p.last ∧ r.first = q.last + 1 ∧ r.last = p.last := by
  unfold partAfter? at h
  split_ifs at h with hlt
  obtain rfl := Option.some.inj h
  exact ⟨hlt, rfl, rfl⟩

end Period

namespace ByDays

/-- The earlier of two dates. -/
def earlier (a b : Date) : Date := if a ≤ b then a else b

/-- The later of two dates. -/
def later (a b : Date) : Date := if a ≤ b then b else a

section Ends

variable {p q r : Period}

section Keyed

variable {side : Period → Date} {key : Period → Int}

theorem earlier_of_key (hle : ∀ p q, side p ≤ side q ↔ key p ≤ key q)
    (hcongr : ∀ p q, key p = key q → side p = side q) (h : key r = min (key p) (key q)) :
    earlier (side p) (side q) = side r := by
  unfold earlier
  split_ifs with hpq <;> rw [hle] at hpq <;> apply hcongr <;> omega

theorem later_of_key (hle : ∀ p q, side p ≤ side q ↔ key p ≤ key q)
    (hcongr : ∀ p q, key p = key q → side p = side q) (h : key r = max (key p) (key q)) :
    later (side p) (side q) = side r := by
  unfold later
  split_ifs with hpq <;> rw [hle] at hpq <;> apply hcongr <;> omega

end Keyed

theorem earlier_start (h : r.first = min p.first q.first) : earlier p.start q.start = r.start :=
  earlier_of_key (fun _ _ => Period.start_le_start_iff) (fun _ _ => Period.start_congr) h

theorem later_start (h : r.first = max p.first q.first) : later p.start q.start = r.start :=
  later_of_key (fun _ _ => Period.start_le_start_iff) (fun _ _ => Period.start_congr) h

theorem earlier_stop (h : r.last = min p.last q.last) : earlier p.stop q.stop = r.stop :=
  earlier_of_key (fun _ _ => Period.stop_le_stop_iff) (fun _ _ => Period.stop_congr) h

theorem later_stop (h : r.last = max p.last q.last) : later p.stop q.stop = r.stop :=
  later_of_key (fun _ _ => Period.stop_le_stop_iff) (fun _ _ => Period.stop_congr) h

theorem later_start_le_earlier_stop_iff :
    later p.start q.start ≤ earlier p.stop q.stop ↔ max p.first q.first ≤ min p.last q.last := by
  unfold later earlier
  split_ifs with hstart hstop hstop <;> rw [Period.start_le_start_iff] at hstart <;>
    rw [Period.stop_le_stop_iff] at hstop <;> rw [Period.start_le_stop_iff] <;> omega

theorem pred?_start (h : r.last + 1 = q.first) : q.start.pred? = some r.stop := by
  have hprev : Calendar.HasMonth (q.first - 1) := by
    rw [← h, Int.add_sub_cancel]
    exact r.hasMonth_last
  rw [Period.start, Calendar.pred?_firstDay _ hprev]
  simp only [Period.stop, ← h, Int.add_sub_cancel]

theorem succ?_stop (h : r.first = q.last + 1) : q.stop.succ? = some r.start := by
  have hnext : Calendar.HasMonth (q.last + 1) := h ▸ r.hasMonth_first
  rw [Period.stop, Calendar.succ?_lastDay _ hnext]
  simp only [Period.start, h]

end Ends

variable (p q : Period)

/-- The ends of `q` are not outside those of `p`. -/
def contains : Bool := p.start ≤ q.start && q.stop ≤ p.stop

@[simp]
theorem contains_eq : contains p q = p.contains q := by
  simp [contains, Period.contains, Period.start_le_start_iff, Period.stop_le_stop_iff]

/-- Each period starts no later than the other ends. -/
def overlaps : Bool := p.start ≤ q.stop && q.start ≤ p.stop

@[simp]
theorem overlaps_eq : overlaps p q = p.overlaps q := by
  simp [overlaps, Period.overlaps, Period.start_le_stop_iff]

/-- The periods do not overlap, and one starts in the month after that of the other's end. -/
def isAdjacentTo : Bool :=
  if overlaps p q then false
  else
    p.stop.monthNumber + 1 == q.start.monthNumber ||
      q.stop.monthNumber + 1 == p.start.monthNumber

@[simp]
theorem isAdjacentTo_eq : isAdjacentTo p q = p.isAdjacentTo q := by
  unfold isAdjacentTo Period.isAdjacentTo
  cases hmeet : p.overlaps q <;> simp [hmeet]

/-- The common part: from the later start to the earlier end. -/
def intersect? : Except Abort (Option Period) :=
  let start := later p.start q.start
  let stop := earlier p.stop q.stop
  if start ≤ stop then do return some (← assemble start stop) else .ok none

@[simp]
theorem intersect?_eq : intersect? p q = .ok (p.intersect? q) := by
  simp only [intersect?, later_start_le_earlier_stop_iff]
  cases hcommon : p.intersect? q with
  | some common =>
      obtain ⟨hmeet, hfirst, hlast⟩ := Period.ends_of_intersect? hcommon
      rw [if_pos hmeet, later_start hfirst, earlier_stop hlast, assemble_start_stop]
      rfl
  | none =>
      unfold Period.intersect? at hcommon
      split_ifs at hcommon with hmeet
      rw [if_neg hmeet]

/-- The union: from the earlier start to the later end. -/
def merge : Except Abort (Except CannotMerge Period) :=
  if overlaps p q || isAdjacentTo p q then do
    return .ok (← assemble (earlier p.start q.start) (later p.stop q.stop))
  else .ok (.error ⟨p, q⟩)

@[simp]
theorem merge_eq : merge p q = .ok (p.merge q) := by
  unfold merge Period.merge
  rw [overlaps_eq, isAdjacentTo_eq, earlier_start (r := p.hull q) rfl,
    later_stop (r := p.hull q) rfl, assemble_start_stop]
  split_ifs <;> rfl

/-- From `p`'s start to the day before `q`. If there were no such day, the part would be lost. -/
def partBefore? : Except Abort (Option Period) :=
  if p.start < q.start then
    match q.start.pred? with
    | some stop => do return some (← assemble p.start stop)
    | none => .ok none
  else .ok none

@[simp]
theorem partBefore?_eq : partBefore? p q = .ok (p.partBefore? q) := by
  simp only [partBefore?, Period.start_lt_start_iff]
  cases hpart : p.partBefore? q with
  | some part =>
      obtain ⟨hlt, hfirst, hlast⟩ := Period.ends_of_partBefore? hpart
      rw [if_pos hlt, pred?_start hlast, ← Period.start_congr hfirst]
      simp only [assemble_start_stop]
      rfl
  | none =>
      unfold Period.partBefore? at hpart
      split_ifs at hpart with hlt
      rw [if_neg hlt]

/-- From the day after `q` to `p`'s end. If there were no such day, the part would be lost. -/
def partAfter? : Except Abort (Option Period) :=
  if q.stop < p.stop then
    match q.stop.succ? with
    | some start => do return some (← assemble start p.stop)
    | none => .ok none
  else .ok none

@[simp]
theorem partAfter?_eq : partAfter? p q = .ok (p.partAfter? q) := by
  simp only [partAfter?, Period.stop_lt_stop_iff]
  cases hpart : p.partAfter? q with
  | some part =>
      obtain ⟨hlt, hfirst, hlast⟩ := Period.ends_of_partAfter? hpart
      rw [if_pos hlt, succ?_stop hfirst, ← Period.stop_congr hlast]
      simp only [assemble_start_stop]
      rfl
  | none =>
      unfold Period.partAfter? at hpart
      split_ifs at hpart with hlt
      rw [if_neg hlt]

/-- What is left of `p` on either side of `q`, or all of `p` if they do not overlap. -/
def subtract : Except Abort (List Period) :=
  if !overlaps p q then .ok [p]
  else do return (← partBefore? p q).toList ++ (← partAfter? p q).toList

@[simp]
theorem subtract_eq : subtract p q = .ok (p.subtract q) := by
  unfold subtract Period.subtract
  rw [overlaps_eq, partBefore?_eq, partAfter?_eq]
  cases p.overlaps q <;> rfl

/-- The months of both ends moved alike, if the calendar has them. -/
def shift? (months : Int) : Except Abort (Option Period) :=
  ofMonths? (p.start.monthNumber + months) (p.stop.monthNumber + months)

@[simp]
theorem shift?_eq (months : Int) : shift? p months = .ok (p.shift? months) := by
  simp [shift?, Period.shift?]

/-- As `shift?`, but it gives up if the calendar does not have the months. -/
def shiftOrAbort (months : Int) : Except Abort Period := do
  match ← shift? p months with
  | some moved => return moved
  | none =>
    .error (.text s!"shifting {p} by {Decimal.signedText months} months {Period.shiftMark}")

@[simp]
theorem shiftOrAbort_eq (months : Int) : shiftOrAbort p months = p.shiftOrAbort months := by
  unfold shiftOrAbort Period.shiftOrAbort
  rw [shift?_eq]
  cases p.shift? months <;> rfl

/-- From the start to the end of the month that it lies in. -/
def firstMonth : Except Abort Period := assemble p.start (monthEnd p.start)

@[simp]
theorem firstMonth_eq : firstMonth p = .ok p.firstMonth := by
  unfold firstMonth
  rw [monthEnd_eq]
  exact assemble_of_eq rfl rfl

/-- From the first day of the month that the end lies in to the end. -/
def lastMonth : Except Abort Period := assemble (monthStart p.stop) p.stop

@[simp]
theorem lastMonth_eq : lastMonth p = .ok p.lastMonth := by
  unfold lastMonth
  rw [monthStart_eq]
  exact assemble_of_eq rfl rfl

end ByDays

end Monthwise
