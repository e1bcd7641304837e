import Monthwise.Entry.Basic
import Monthwise.Proofs.ByDays.Algebra
import Monthwise.Proofs.Timeline.Segments

/-! # Timelines by days

Records are laid over a window by the ends of their periods. On the way there are two
more things to go wrong: a record could be painted over slots that the window does not
have, and a winner could be narrowed to a period that is not inside its own. Neither
happens, since a slot is only ever won by a record that has its month.
-/

namespace Monthwise

open Timeline (ranked sameWinner)

namespace ByDays

variable {ρ Recency Id : Type} [TimedRecord ρ Recency Id]

/-- Lets a record win the months of the window that it has. It gives up on slots that are not
there. -/
def paint (window : Period) (slots : List (Option (Placed ρ))) (r : Placed ρ) :
    Except Abort (List (Option (Placed ρ))) := do
  match ← intersect? (TimedRecord.period r.1) window with
  | none => return slots
  | some clipped =>
    let offset := clipped.start.monthNumber - window.start.monthNumber
    if 0 ≤ offset ∧ offset + monthCount clipped ≤ slots.length then
      return slots.mapIdx fun i slot =>
        if offset.toNat ≤ i ∧ i < offset.toNat + monthCount clipped then some r else slot
    else
      let stop := offset + monthCount clipped
      .error (.text s!"range end index {stop} out of range for slice of length {slots.length}")

/-- The record narrowed to a period. It gives up if the period is not inside the record's own. -/
def clip (r : ρ) (fresh : Id) (period : Period) : Except Abort ρ :=
  if contains (TimedRecord.period r) period then .ok (TimedRecord.clip r fresh period)
  else .error (.text s!"reclip target {period} must lie inside {TimedRecord.period r}")

/-- The segments of runs of slots, the first of which begins at `month`. -/
def segmentsFrom (fresh : Nat → Id) : (month : Int) → (n : Nat) →
    List (List (Option (Placed ρ))) → Except Abort (List (Segment ρ))
  | _, _, [] => .ok []
  | month, n, run :: rest => do
    match run.head?.join, ← ofMonths? month (month + run.length - 1) with
    | some (winner, _), some period =>
      let record ← clip winner (fresh n) period
      return ⟨period, record⟩ :: (← segmentsFrom fresh (month + run.length) (n + 1) rest)
    | _, _ => segmentsFrom fresh (month + run.length) n rest

/-- An entry gives up in the same cases, and with the same text. -/
theorem clip_entry {α : Type} (e : Entry α) (fresh : Uuid) (period : Period) :
    clip e fresh period = e.clipOrAbort fresh period := by
  unfold clip Entry.clipOrAbort
  rw [contains_eq]
  rfl

theorem clip_eq {r : ρ} {period : Period} (h : (TimedRecord.period r).contains period)
    (fresh : Id) : clip r fresh period = .ok (TimedRecord.clip r fresh period) := by
  rw [clip, contains_eq, if_pos h]

section Painting

/-- There is a slot for every month that a period and the window have in common. -/
theorem slots_of_intersect? {p window clipped : Period}
    (hclipped : p.intersect? window = some clipped) :
    0 ≤ clipped.first - window.first ∧
      clipped.first - window.first + clipped.monthCount ≤ (window.monthCount : Int) := by
  have hfirst := ((Period.hasMonth_intersect? hclipped).mp clipped.has_first).2.1
  have hlast := ((Period.hasMonth_intersect? hclipped).mp clipped.has_last).2.2
  have hle := clipped.first_le_last
  rw [Period.monthCount, Period.monthCount]
  omega

theorem paint_eq {window : Period} {slots : List (Option (Placed ρ))}
    (hslots : slots.length = window.monthCount) (r : Placed ρ) :
    paint window slots r = .ok (Timeline.paint window slots r) := by
  unfold paint Timeline.paint
  rw [intersect?_eq, ok_bind]
  cases hclipped : (TimedRecord.period r.1).intersect? window with
  | none => rfl
  | some clipped =>
      have hrange := slots_of_intersect? hclipped
      rw [← hslots] at hrange
      simp only [Period.monthNumber_start, monthCount_eq, if_pos hrange]
      rfl

theorem foldlM_paint_eq {window : Period} (painted : List (Placed ρ))
    {slots : List (Option (Placed ρ))} (hslots : slots.length = window.monthCount) :
    painted.foldlM (paint window) slots = .ok (painted.foldl (Timeline.paint window) slots) := by
  induction painted generalizing slots with
  | nil => rfl
  | cons r rest ih =>
      rw [List.foldlM_cons, paint_eq hslots, ok_bind, List.foldl_cons]
      exact ih (by rw [Timeline.length_paint, hslots])

end Painting

variable [Ord Recency] [Ord Id]

/-- The winner of each month of the window. -/
def winners (window : Period) (records : List ρ) : Except Abort (List (Option (Placed ρ))) :=
  (ranked records).foldlM (paint window) (List.replicate (monthCount window) none)

/-- Lays the records over the window. -/
def reconcile (fresh : Nat → Id) (window : Period) (records : List ρ) :
    Except Abort (Timeline ρ) := do
  let slots ← winners window records
  let segments ← segmentsFrom fresh window.start.monthNumber 0 (slots.splitBy sameWinner)
  return { window, segments }

@[simp]
theorem winners_eq (window : Period) (records : List ρ) :
    winners window records = .ok (Timeline.winners window records) := by
  rw [winners, monthCount_eq]
  exact foldlM_paint_eq _ (List.length_replicate ..)

section Segments

variable {records : List ρ} {month : Int} {run : List (Option (Placed ρ))}

/-- The record that wins the first month of a run wins all of them, so it has the whole run. -/
theorem contains_of_run {r : Placed ρ} {p : Period} (hslots : Timeline.IsSlots records month run)
    (hchain : run.IsChain fun a b => sameWinner a b = true) (hhead : run.head? = some (some r))
    (hfirst : p.first = month) (hlast : p.last + 1 = month + run.length) :
    (TimedRecord.period r.1).contains p := by
  subst hfirst
  have hwinner : Timeline.winner? records p.first = some r := by
    have hne : run ≠ [] := fun heq => by simp [heq] at hhead
    rw [List.head?_eq_some_head hne, hslots.head_eq hne, Option.some.injEq] at hhead
    exact hhead
  have hwins (m : Int) (hm : p.HasMonth m) : Timeline.winner? records m = some r := by
    apply Timeline.winner?_eq_of_place_eq _ hwinner
    exact colour_eq_of_joined (fun m hm hm' => hslots.joined hchain hm (by omega)) hm.1 hm.2
  exact Timeline.contains_of_winner hwins

theorem segmentsFrom_eq (fresh : Nat → Id) (runs : List (List (Option (Placed ρ)))) (month : Int)
    (n : Nat) (hslots : Timeline.IsSlots records month runs.flatten)
    (hchain : ∀ run ∈ runs, run.IsChain fun a b => sameWinner a b = true) :
    segmentsFrom fresh month n runs = .ok (Timeline.segmentsFrom fresh month n runs) := by
  induction runs generalizing month n with
  | nil => rfl
  | cons run rest ih =>
      obtain ⟨hrun, hrest⟩ := hslots.append
      have hnext (n : Nat) := ih (month + run.length) n hrest
        (fun r hr => hchain r (List.mem_cons_of_mem _ hr))
      simp only [segmentsFrom, Timeline.segmentsFrom, ofMonths?_eq, ok_bind]
      cases hwinner : run.head?.join with
      | none => exact hnext n
      | some r =>
          cases hperiod : Period.ofMonths? month (month + run.length - 1) with
          | none => exact hnext n
          | some p =>
              obtain ⟨hfirst, hlast⟩ := Period.ofMonths?_eq_some_iff.mp hperiod
              have hcontains := contains_of_run hrun (hchain run List.mem_cons_self)
                (Option.join_eq_some_iff.mp hwinner) hfirst (by omega)
              simp only [clip_eq hcontains, hnext, ok_bind]
              rfl

end Segments

@[simp]
theorem reconcile_eq (fresh : Nat → Id) (window : Period) (records : List ρ) :
    reconcile fresh window records = .ok (Timeline.reconcile fresh window records) := by
  have hflat := List.flatten_splitBy sameWinner (Timeline.winners window records)
  have hslots : Timeline.IsSlots records window.first
      ((Timeline.winners window records).splitBy sameWinner).flatten := by
    rw [hflat, Timeline.IsSlots, Timeline.length_winners]
    exact Timeline.winners_eq window records
  have hsegments := segmentsFrom_eq fresh _ window.first 0 hslots
    fun run hrun => List.isChain_of_mem_splitBy hrun
  rw [reconcile, winners_eq, ok_bind, Period.monthNumber_start, hsegments]
  rfl

end ByDays

end Monthwise
