import Mathlib
import Monthwise.Award
import Monthwise.Proofs.Timeline.Lookup

/-! # A further record

A record that comes in anywhere among others moves those behind it by one place.
This leaves them in the order of strength that they had, so a month keeps its winner
unless the new record has the month and is stronger than all others that have it.
-/

namespace Monthwise.Timeline

variable {ρ Recency Id : Type} [TimedRecord ρ Recency Id]

/-- The record at the place that it has once another one has come in at `place`. -/
def makeRoom (place : Nat) (r : Placed ρ) : Placed ρ :=
  (r.1, if r.2 < place then r.2 else r.2 + 1)

variable {before after : List ρ} {new : ρ} {month : Int} {place : Nat} {r : Placed ρ}

omit [TimedRecord ρ Recency Id] in
theorem place_makeRoom_ne (place : Nat) (r : Placed ρ) : (makeRoom place r).2 ≠ place := by
  simp only [makeRoom]
  split_ifs <;> omega

omit [TimedRecord ρ Recency Id] in
theorem map_makeRoom_before (before : List ρ) :
    before.zipIdx.map (makeRoom before.length) = before.zipIdx := by
  conv_rhs => rw [← List.map_id before.zipIdx]
  apply List.map_congr_left
  intro r hr
  have hlt : r.2 < before.length := List.snd_lt_of_mem_zipIdx hr
  simp [makeRoom, hlt]

omit [TimedRecord ρ Recency Id] in
theorem map_makeRoom_after (after : List ρ) (place : Nat) :
    (after.zipIdx place).map (makeRoom place) = after.zipIdx (place + 1) := by
  rw [List.zipIdx_succ]
  apply List.map_congr_left
  intro r hr
  have hle := List.le_snd_of_mem_zipIdx hr
  simp [makeRoom, Nat.not_lt.mpr hle]

omit [TimedRecord ρ Recency Id] in
theorem mem_zipIdx_insert : r ∈ (before ++ new :: after).zipIdx ↔ r = (new, before.length) ∨
    ∃ old ∈ (before ++ after).zipIdx, makeRoom before.length old = r := by
  rw [← List.mem_map, List.zipIdx_append, List.zipIdx_append, List.zipIdx_cons, Nat.zero_add,
    List.map_append, map_makeRoom_before, map_makeRoom_after, List.mem_append, List.mem_append,
    List.mem_cons, or_left_comm]

section Strength

variable [Ord Recency] [Ord Id]

theorem compareStrength_makeRoom (place : Nat) (a b : Placed ρ) :
    compareStrength (makeRoom place a) (makeRoom place b) = compareStrength a b := by
  have hplace : compare (makeRoom place a).2 (makeRoom place b).2 = compare a.2 b.2 := by
    simp only [makeRoom, compare, compareOfLessAndEq]
    split_ifs <;> first | rfl | omega
  rw [compareStrength, hplace]
  rfl

/-- The winner stays the winner unless the new record beats it. -/
theorem IsStrongest.insert_old (hr : IsStrongest (before ++ after) month r)
    (hnew : (TimedRecord.period new).HasMonth month →
      compareStrength (new, before.length) (makeRoom before.length r) = .lt) :
    IsStrongest (before ++ new :: after) month (makeRoom before.length r) where
  mem := mem_zipIdx_insert.mpr (.inr ⟨r, hr.mem, rfl⟩)
  has := hr.has
  beats other hother hhas hplace := by
    rcases mem_zipIdx_insert.mp hother with rfl | ⟨old, hold, rfl⟩
    · exact hnew hhas
    · rw [compareStrength_makeRoom]
      exact hr.beats old hold hhas fun heq => hplace (by simp only [makeRoom, heq])

variable [Std.TransOrd Recency] [Std.TransOrd Id]

/-- The new record wins a month that it has if it beats whoever won the month. -/
theorem IsStrongest.insert_new (hhas : (TimedRecord.period new).HasMonth month)
    (hbeats : ∀ r, winner? (before ++ after) month = some r →
      compareStrength (makeRoom before.length r) (new, before.length) = .lt) :
    IsStrongest (before ++ new :: after) month (new, before.length) where
  mem := mem_zipIdx_insert.mpr (.inl rfl)
  has := hhas
  beats other hother hotherHas hplace := by
    rcases mem_zipIdx_insert.mp hother with rfl | ⟨old, hold, rfl⟩
    · exact absurd rfl hplace
    · obtain ⟨r, hwinner, hle⟩ := isLE_winner hold hotherHas
      rw [← compareStrength_makeRoom before.length] at hle
      exact Std.TransCmp.lt_of_isLE_of_lt hle (hbeats r hwinner)

/-- The winner of a month after a record has come in: the new record only counts in its own
months, and there the stronger of it and the former winner wins. -/
theorem winner?_insert (before after : List ρ) (new : ρ) (month : Int) :
    winner? (before ++ new :: after) month =
      let old := (winner? (before ++ after) month).map (makeRoom before.length)
      if (TimedRecord.period new).HasMonth month then stronger old (some (new, before.length))
      else old := by
  cases hold : winner? (before ++ after) month with
  | none =>
      split_ifs with hhas
      · exact winner?_eq_some_iff.mpr (.insert_new hhas (by simp [hold]))
      · rw [winner?_eq_none_iff] at hold
        refine winner?_eq_none_iff.mpr ?_
        rintro ⟨r, hr, hm⟩
        simp only [List.mem_append, List.mem_cons, or_left_comm] at hr
        rcases hr with rfl | hr
        · exact hhas hm
        · exact hold ⟨r, List.mem_append.mpr hr, hm⟩
  | some r =>
      have hstrongest := isStrongest_of_winner? hold
      split_ifs with hhas
      · simp only [Option.map_some, stronger]
        split_ifs with hgt
        · exact winner?_eq_some_iff.mpr
            (hstrongest.insert_old fun _ => Std.OrientedCmp.lt_of_gt hgt)
        · refine winner?_eq_some_iff.mpr (.insert_new hhas fun r' hr' => ?_)
          obtain rfl := Option.some.inj (hold.symm.trans hr')
          have hne : compareStrength (makeRoom before.length r) (new, before.length) ≠ .eq :=
            compareStrength_ne_eq (place_makeRoom_ne before.length r)
          cases hcompare : compareStrength (makeRoom before.length r) (new, before.length) with
          | lt => rfl
          | eq => exact absurd hcompare hne
          | gt => exact absurd hcompare hgt
      · exact winner?_eq_some_iff.mpr (hstrongest.insert_old fun h => absurd h hhas)

end Strength

variable [Ord Recency] [Ord Id] [Std.TransOrd Recency] [Std.TransOrd Id]

/-- A record that comes in at any place, with any recency and identity, changes nothing on the
dates that it does not have. On a date that it has, it wins or the former winner stays, and it wins
exactly if it is stronger than every other record that has the date. -/
theorem reconcile_insert (fresh fresh' : Nat → Id) {window : Period} {d : Date} (hd : d ∈ window)
    (before after : List ρ) (new : ρ) :
    let olds := before ++ after
    let news := before ++ new :: after
    let old := (winner? olds d.monthNumber).map (makeRoom before.length)
    let winner := winner? news d.monthNumber
    Holds (reconcile fresh window olds) d (winner? olds d.monthNumber) ∧
    Holds (reconcile fresh' window news) d winner ∧
    (d ∉ TimedRecord.period new → winner = old) ∧
    (d ∈ TimedRecord.period new → (winner = some (new, before.length) ∨ winner = old) ∧
      (winner = some (new, before.length) ↔ ∀ other ∈ news.zipIdx, d ∈ TimedRecord.period other.1 →
        other.2 ≠ before.length → compareStrength other (new, before.length) = .lt)) := by
  intro olds news old winner
  have hinsert := winner?_insert before after new d.monthNumber
  simp only [Period.mem_iff_hasMonth]
  refine ⟨holds_winner? hd fresh olds, holds_winner? hd fresh' news, ?outside, ?inside⟩
  case outside =>
    intro hfree
    exact hinsert.trans (if_neg hfree)
  case inside =>
    intro hhas
    constructor
    · rw [show winner = stronger old (some (new, before.length)) from hinsert.trans (if_pos hhas)]
      cases old with
      | none => exact .inl rfl
      | some r =>
          simp only [stronger]
          split_ifs
          · exact .inr rfl
          · exact .inl rfl
    · rw [winner?_eq_some_iff]
      constructor
      · exact fun hstrongest => hstrongest.beats
      · exact fun hbeats => ⟨mem_zipIdx_insert.mpr (.inl rfl), hhas, hbeats⟩

/-- Recency and identity do not decide between these awards. The one that comes in between the
others takes March from the one before it, but not May from the one behind it. -/
theorem reconcile_insert_between_two_awards :
    let months (first last : Int) (h : (Period.ofMonths? first last).isSome) : Period :=
      (Period.ofMonths? first last).get h
    let award (name : String) (period : Period) : Award := ⟨name, period, 1, 1, []⟩
    let first := award "first" (months 0 5 rfl)
    let new := award "new" (months 2 4 rfl)
    let last := award "last" (months 4 6 rfl)
    let march := (Date.ofYmd? 0 3 15).get rfl
    let may := (Date.ofYmd? 0 5 15).get rfl
    let ids : Nat → Int := fun n => n
    march ∈ months 1 9 rfl ∧ may ∈ months 1 9 rfl ∧
    Holds (reconcile ids (months 1 9 rfl) [first, new, last]) march (some (new, 1)) ∧
    Holds (reconcile ids (months 1 9 rfl) [first, new, last]) may (some (last, 2)) := by
  intro months award first new last march may ids
  have hmarch : march ∈ months 1 9 rfl := by decide
  have hmay : may ∈ months 1 9 rfl := by decide
  obtain ⟨-, hholds, -, hinside⟩ := reconcile_insert ids ids hmarch [first] [last] new
  obtain ⟨-, hholds', -, hinside'⟩ := reconcile_insert ids ids hmay [first] [last] new
  have hnew := (hinside (by decide)).2.mpr (by decide)
  have hbefore : winner? ([first] ++ [last]) may.monthNumber = some (last, 1) := by
    rw [winner?_eq_some_iff]
    exact ⟨by decide, by decide, by decide⟩
  have hold : winner? [first, new, last] may.monthNumber = some (last, 2) := by
    refine ((hinside' (by decide)).1.resolve_left fun h => ?_).trans (by rw [hbefore]; rfl)
    exact absurd ((hinside' (by decide)).2.mp h) (by decide)
  exact ⟨hmarch, hmay, hnew ▸ hholds, hold ▸ hholds'⟩

end Monthwise.Timeline
