import Mathlib.Data.List.Nodup
import Monthwise.Proofs.Calendar.MonthGrid

/-! # Runs of a colouring

A colouring gives some months a colour and leaves the others blank. Its runs are
the longest periods of one colour. A list of periods that holds the runs in
calendar order is determined by the colouring, and even by less: by which months
are blank and by which neighbours have the same colour.
-/

namespace Monthwise

variable {κ κ' : Type} {colour : Int → Option κ} {colour' : Int → Option κ'}
variable {p q : Period} {ps qs : List Period} {month : Int}

/-- A longest period of one colour: no month is blank, neighbours inside have the same colour,
and the months before and after have another or none. -/
structure IsRun (colour : Int → Option κ) (p : Period) : Prop where
  coloured : ∀ m, p.HasMonth m → colour m ≠ none
  joined : ∀ m, p.first ≤ m → m < p.last → colour m = colour (m + 1)
  opens : colour (p.first - 1) ≠ colour p.first
  closes : colour p.last ≠ colour (p.last + 1)

/-- Months of a stretch without changes of colour have the colour of the first. -/
theorem colour_eq_of_joined {first last : Int}
    (hjoined : ∀ m, first ≤ m → m < last → colour m = colour (m + 1)) (hfirst : first ≤ month)
    (hlast : month ≤ last) : colour month = colour first := by
  obtain ⟨steps, rfl⟩ := Int.le.dest hfirst
  induction steps with
  | zero => simp
  | succ steps ih =>
      have hstep := hjoined (first + steps) (by omega) (by omega)
      rw [← ih (by omega) (by omega), hstep]
      congr 1
      omega

namespace IsRun

theorem colour_eq (hrun : IsRun colour p) (hm : p.HasMonth month) :
    colour month = colour p.first :=
  colour_eq_of_joined hrun.joined hm.1 hm.2

theorem has_succ (hrun : IsRun colour p) (hm : p.HasMonth month)
    (hsame : colour month = colour (month + 1)) : p.HasMonth (month + 1) := by
  have hne : month ≠ p.last := by
    intro heq
    exact hrun.closes (heq ▸ hsame)
  have hlast := hm.2
  exact ⟨by have := hm.1; omega, by omega⟩

/-- A run contains every period without breaks that it shares a month with. -/
theorem contains_of_joined (hrun : IsRun colour p) (hp : p.HasMonth month)
    (hq : q.HasMonth month) (hjoined : ∀ m, q.first ≤ m → m < q.last → colour m = colour (m + 1)) :
    p.first ≤ q.first ∧ q.last ≤ p.last := by
  constructor
  · by_contra hlt
    have hopen := hjoined (p.first - 1) (by omega) (by have := hp.1; have := hq.2; omega)
    rw [Int.sub_add_cancel] at hopen
    exact hrun.opens hopen
  · by_contra hlt
    exact hrun.closes (hjoined p.last (by have := hp.2; have := hq.1; omega) (by omega))

theorem eq_of_hasMonth (hp : IsRun colour p) (hq : IsRun colour q) (hpm : p.HasMonth month)
    (hqm : q.HasMonth month) : p = q := by
  obtain ⟨hpq, hqp⟩ := hp.contains_of_joined hpm hqm hq.joined
  obtain ⟨hpq', hqp'⟩ := hq.contains_of_joined hqm hpm hp.joined
  exact Period.ext (by omega) (by omega)

/-- What the runs are depends only on the blank months and on where the colour changes. -/
theorem congr (hrun : IsRun colour p) (hblank : ∀ m, colour m = none ↔ colour' m = none)
    (hsame : ∀ m, colour m = colour (m + 1) ↔ colour' m = colour' (m + 1)) : IsRun colour' p where
  coloured m hm := (hblank m).not.mp (hrun.coloured m hm)
  joined m hfirst hlast := (hsame m).mp (hrun.joined m hfirst hlast)
  opens := by
    have hchange := (hsame (p.first - 1)).not
    rw [Int.sub_add_cancel] at hchange
    exact hchange.mp hrun.opens
  closes := (hsame p.last).not.mp hrun.closes

end IsRun

/-- In calendar order, and no two share a month. -/
def InOrder (ps : List Period) : Prop := ps.Pairwise fun p q => p.last < q.first

theorem InOrder.nodup (horder : InOrder ps) : ps.Nodup := by
  refine horder.imp fun {p q} hlt heq => ?_
  subst heq
  have hle := p.first_le_last
  omega

/-- Where the periods of some items are in order, at most one item has a given month. -/
theorem InOrder.eq_of_map {α : Type} {items : List α} {period : α → Period}
    (horder : InOrder (items.map period)) {a b : α} (ha : a ∈ items) (hb : b ∈ items)
    (ham : (period a).HasMonth month) (hbm : (period b).HasMonth month) : a = b := by
  have hapart {a b : α} (hlt : (period a).last < (period b).first)
      (ham : (period a).HasMonth month) (hbm : (period b).HasMonth month) : a = b := by
    have := ham.2
    have := hbm.1
    omega
  rw [InOrder, List.pairwise_map] at horder
  exact List.Pairwise.forall_of_forall_of_flip
    (R := fun a b => (period a).HasMonth month → (period b).HasMonth month → a = b)
    (fun _ _ _ _ => rfl) (horder.imp hapart)
    (horder.imp fun hlt hbm ham => (hapart hlt ham hbm).symm) ha hb ham hbm

/-- Where the periods of some items are in order, an item is the only one with its months. -/
theorem InOrder.filter_eq {α : Type} {items : List α} {period : α → Period}
    (horder : InOrder (items.map period)) {a : α} (ha : a ∈ items)
    (ham : (period a).HasMonth month) :
    items.filter (fun b => (period b).HasMonth month) = [a] := by
  have hnodup : items.Nodup := List.Nodup.of_map period horder.nodup
  rw [← List.perm_singleton, List.perm_ext_iff_of_nodup (hnodup.filter _) (List.nodup_singleton a)]
  intro b
  rw [List.mem_filter, List.mem_singleton, decide_eq_true_eq]
  constructor
  · rintro ⟨hb, hbm⟩
    exact horder.eq_of_map hb ha hbm ham
  · rintro rfl
    exact ⟨ha, ham⟩

theorem InOrder.eq_of_mem_iff (hps : InOrder ps) (hqs : InOrder qs)
    (hmem : ∀ p, p ∈ ps ↔ p ∈ qs) : ps = qs := by
  have hperm : ps.Perm qs := (List.perm_ext_iff_of_nodup hps.nodup hqs.nodup).mpr hmem
  refine hperm.eq_of_pairwise ?_ hps hqs
  intro p q _ _ hpq hqp
  have hp := p.first_le_last
  have hq := q.first_le_last
  omega

/-- The periods are the runs of the colouring, in calendar order. -/
structure AreRuns (colour : Int → Option κ) (ps : List Period) : Prop where
  inOrder : InOrder ps
  isRun : ∀ p ∈ ps, IsRun colour p
  exhaustive : ∀ m, colour m ≠ none → ∃ p ∈ ps, p.HasMonth m

namespace AreRuns

theorem mem_iff (hruns : AreRuns colour ps) : p ∈ ps ↔ IsRun colour p := by
  constructor
  · exact hruns.isRun p
  · intro hp
    obtain ⟨q, hq, hqm⟩ := hruns.exhaustive p.first (hp.coloured _ p.has_first)
    rwa [hp.eq_of_hasMonth (hruns.isRun q hq) p.has_first hqm]

theorem coloured_iff (hruns : AreRuns colour ps) :
    colour month ≠ none ↔ ∃ p ∈ ps, p.HasMonth month := by
  constructor
  · exact hruns.exhaustive month
  · rintro ⟨p, hp, hm⟩
    exact (hruns.isRun p hp).coloured month hm

theorem congr (hruns : AreRuns colour ps) (hblank : ∀ m, colour m = none ↔ colour' m = none)
    (hsame : ∀ m, colour m = colour (m + 1) ↔ colour' m = colour' (m + 1)) :
    AreRuns colour' ps where
  inOrder := hruns.inOrder
  isRun p hp := (hruns.isRun p hp).congr hblank hsame
  exhaustive m hm := hruns.exhaustive m ((hblank m).not.mpr hm)

theorem unique (hps : AreRuns colour ps) (hqs : AreRuns colour qs) : ps = qs :=
  hps.inOrder.eq_of_mem_iff hqs.inOrder fun _ => hps.mem_iff.trans hqs.mem_iff.symm

/-- No list of unbroken periods that has all coloured months is shorter than the list of runs:
each of its members lies in one run, and each run needs a member. -/
theorem length_le (hruns : AreRuns colour ps)
    (hjoined : ∀ q ∈ qs, ∀ m, q.first ≤ m → m < q.last → colour m = colour (m + 1))
    (hcover : ∀ m, colour m ≠ none → ∃ q ∈ qs, q.HasMonth m) : ps.length ≤ qs.length := by
  have horder : InOrder (ps.map id) := by
    rw [List.map_id]
    exact hruns.inOrder
  -- a run is found again from the member that has its first month, since that member begins in it
  have hsubset : ps.map some ⊆ qs.map fun q => ps.find? (·.HasMonth q.first) := by
    intro found hfound
    obtain ⟨p, hp, rfl⟩ := List.mem_map.mp hfound
    have hrun := hruns.isRun p hp
    obtain ⟨q, hq, hqm⟩ := hcover p.first (hrun.coloured _ p.has_first)
    have hinside := hrun.contains_of_joined p.has_first hqm (hjoined q hq)
    have hfirst : p.HasMonth q.first := ⟨hinside.1, Int.le_trans q.first_le_last hinside.2⟩
    have halone : ps.filter (·.HasMonth q.first) = [p] := horder.filter_eq hp hfirst
    refine List.mem_map.mpr ⟨q, hq, ?_⟩
    rw [← List.head?_filter, halone, List.head?_cons]
  have hnodup : (ps.map some).Nodup := hruns.inOrder.nodup.map fun _ _ => Option.some.inj
  simpa using hnodup.length_le_of_subset hsubset

end AreRuns

end Monthwise
