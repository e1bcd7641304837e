import Monthwise.Proofs.Coverage.Remainder
import Monthwise.Proofs.Period.Shifting

/-! # Moving lists of periods

Lists of periods are moved member by member. A separated list is determined by the months
that it covers, so whatever computes a separated list from covered months moves along with
what it is computed from. The other operations go through a list in order, and the order
stays what it was.
-/

namespace Monthwise

section SideBySide

variable {α β : Type} {R : α → β → Prop} {as : List α} {bs : List β}

theorem exists_forall₂ (h : ∀ a ∈ as, ∃ b, R a b) : ∃ bs, List.Forall₂ R as bs := by
  induction as with
  | nil => exact ⟨[], .nil⟩
  | cons a as ih =>
      obtain ⟨b, hb⟩ := h a List.mem_cons_self
      obtain ⟨bs, hbs⟩ := ih fun a ha => h a (List.mem_cons_of_mem _ ha)
      exact ⟨b :: bs, .cons hb hbs⟩

theorem exists_of_mem_right (h : List.Forall₂ R as bs) {b : β} (hb : b ∈ bs) :
    ∃ a ∈ as, R a b := by
  obtain ⟨i, hi, rfl⟩ := List.mem_iff_getElem.mp hb
  have hi' : i < as.length := h.length_eq ▸ hi
  exact ⟨as[i], List.getElem_mem hi', h.get hi' hi⟩

theorem exists_of_mem_left (h : List.Forall₂ R as bs) {a : α} (ha : a ∈ as) :
    ∃ b ∈ bs, R a b := exists_of_mem_right h.flip ha

theorem pairwise_of_forall₂ {S : α → α → Prop} {S' : β → β → Prop} (h : List.Forall₂ R as bs)
    (hS : ∀ a a' b b', R a b → R a' b' → S a a' → S' b b') (hpairwise : as.Pairwise S) :
    bs.Pairwise S' := by
  rw [List.pairwise_iff_getElem] at hpairwise ⊢
  intro i j hi hj hlt
  have hi' : i < as.length := h.length_eq ▸ hi
  have hj' : j < as.length := h.length_eq ▸ hj
  exact hS _ _ _ _ (h.get hi' hi) (h.get hj' hj) (hpairwise i j hi' hj' hlt)

/-- Sorting keeps together what belongs together, if both lists are compared in the same way. -/
theorem forall₂_mergeSort {le : α → α → Bool} {le' : β → β → Bool} (h : List.Forall₂ R as bs)
    (hle : ∀ a a' b b', R a b → R a' b' → le a a' = le' b b') :
    List.Forall₂ R (as.mergeSort le) (bs.mergeSort le') := by
  -- the pairs are sorted once, by what stands on either side
  have hlength := h.length_eq
  have hpairs : ∀ z ∈ as.zip bs, R z.1 z.2 := fun z hz => List.forall₂_zip h hz
  have hleft : ((as.zip bs).mergeSort fun x y => le x.1 y.1).map Prod.fst = as.mergeSort le := by
    rw [List.map_mergeSort (s := le) fun _ _ _ _ => rfl, List.map_fst_zip hlength.le]
  have hright : ((as.zip bs).mergeSort fun x y => le x.1 y.1).map Prod.snd =
      bs.mergeSort le' := by
    rw [List.map_mergeSort (s := le') fun x hx y hy => hle _ _ _ _ (hpairs x hx) (hpairs y hy),
      List.map_snd_zip hlength.ge]
  rw [← hleft, ← hright, List.forall₂_map_left_iff, List.forall₂_map_right_iff, List.forall₂_same]
  exact fun z hz => hpairs z (List.mem_mergeSort.mp hz)

end SideBySide

open Period (Moved)

section Runs

variable {κ κ' : Type} {colour : Int → Option κ} {colour' : Int → Option κ'} {months month : Int}
variable {p p' : Period} {ps ps' : List Period}

theorem IsRun.moved (hrun : IsRun (fun month => colour (month + months)) p)
    (hp : Moved months p p') : IsRun colour p' := by
  obtain ⟨hfirst, hlast⟩ := Period.moved_iff.mp hp
  have hback (m : Int) : ∃ k, m = k + months := ⟨m - months, (Int.sub_add_cancel m months).symm⟩
  refine ⟨fun m hm => ?_, fun m hm hm' => ?_, ?_, ?_⟩
  · obtain ⟨k, rfl⟩ := hback m
    exact hrun.coloured k (hp.hasMonth_iff.mp hm)
  · obtain ⟨k, rfl⟩ := hback m
    rw [Int.add_right_comm]
    exact hrun.joined k (by omega) (by omega)
  · rw [show p'.first - 1 = p.first - 1 + months by omega, hfirst]
    exact hrun.opens
  · rw [show p'.last + 1 = p.last + 1 + months by omega, hlast]
    exact hrun.closes

/-- If a colouring is moved, its runs move along. -/
theorem AreRuns.forall₂_moved (hps : AreRuns colour ps) (hps' : AreRuns colour' ps')
    (hblank : ∀ m, colour m = none ↔ colour' (m + months) = none)
    (hsame : ∀ m, colour m = colour (m + 1) ↔
      colour' (m + months) = colour' (m + 1 + months)) :
    List.Forall₂ (Moved months) ps ps' := by
  have hruns : AreRuns (fun month => colour' (month + months)) ps := hps.congr hblank hsame
  have hmoved : ∀ p ∈ ps, ∃ p', Moved months p p' := by
    intro p hp
    -- the moved months have a colour, so the calendar has them
    have hcalendar {month : Int} (hm : p.HasMonth month) : Calendar.HasMonth (month + months) := by
      obtain ⟨p', -, hm'⟩ := hps'.exhaustive _ ((hruns.isRun p hp).coloured month hm)
      exact hm'.inCalendar
    exact Period.exists_moved (hcalendar p.has_first).1 (hcalendar p.has_last).2
  obtain ⟨qs, hqs⟩ := exists_forall₂ hmoved
  have hruns' : AreRuns colour' qs := by
    refine ⟨?_, fun q hq => ?_, fun m hm => ?_⟩
    · refine pairwise_of_forall₂ hqs (fun p q p' q' hp hq hlt => ?_) hruns.inOrder
      obtain ⟨-, hlast⟩ := Period.moved_iff.mp hp
      obtain ⟨hfirst, -⟩ := Period.moved_iff.mp hq
      omega
    · obtain ⟨p, hp, hmoved⟩ := exists_of_mem_right hqs hq
      exact (hruns.isRun p hp).moved hmoved
    · obtain ⟨k, rfl⟩ : ∃ k, m = k + months := ⟨m - months, (Int.sub_add_cancel m months).symm⟩
      obtain ⟨p, hp, hpm⟩ := hruns.exhaustive k hm
      obtain ⟨q, hq, hmoved⟩ := exists_of_mem_left hqs hp
      exact ⟨q, hq, hmoved.hasMonth_iff.mpr hpm⟩
  exact hruns'.unique hps' ▸ hqs

end Runs

namespace Coverage

variable {months month : Int} {p p' q q' : Period} {ps ps' qs qs' bases bases' : List Period}

theorem coversMonth_moved (hps : List.Forall₂ (Moved months) ps ps') :
    CoversMonth ps' (month + months) ↔ CoversMonth ps month := by
  induction hps with
  | nil => simp [CoversMonth]
  | cons hp _ ih => rw [coversMonth_cons, coversMonth_cons, hp.hasMonth_iff, ih]

/-- Of two separated lists one is the other moved if it covers the moved months. -/
theorem Separated.forall₂_moved (hps : Separated ps) (hps' : Separated ps')
    (hcovers : ∀ month, CoversMonth ps' (month + months) ↔ CoversMonth ps month) :
    List.Forall₂ (Moved months) ps ps' := by
  refine hps.areRuns.forall₂_moved hps'.areRuns (fun m => ?_) fun m => ?_
  · rw [colour_eq_none_iff, colour_eq_none_iff, hcovers]
  · rw [colour_eq_colour_iff, colour_eq_colour_iff, hcovers, hcovers]

section Separated

variable (hps : List.Forall₂ (Moved months) ps ps')
include hps

theorem reduce_moved : List.Forall₂ (Moved months) (reduce ps) (reduce ps') := by
  apply (separated_reduce ps).forall₂_moved (separated_reduce ps')
  intro month
  rw [coversMonth_reduce, coversMonth_reduce, coversMonth_moved hps]

theorem remainder_moved (hp : Moved months p p') :
    List.Forall₂ (Moved months) (remainder p ps) (remainder p' ps') := by
  apply (separated_remainder p ps).forall₂_moved (separated_remainder p' ps')
  intro month
  rw [coversMonth_remainder, coversMonth_remainder, hp.hasMonth_iff, coversMonth_moved hps]

theorem gaps_moved (hp : Moved months p p') :
    List.Forall₂ (Moved months) (gaps p ps) (gaps p' ps') := by
  rw [gaps_eq_remainder, gaps_eq_remainder]
  exact remainder_moved hps hp

theorem subtractAll_moved (hbases : List.Forall₂ (Moved months) bases bases') :
    List.Forall₂ (Moved months) (subtractAll bases ps) (subtractAll bases' ps') :=
  List.rel_flatMap hbases fun _ _ hp => remainder_moved hps hp

theorem isContiguous_moved : isContiguous ps' = isContiguous ps := by
  rw [isContiguous, isContiguous, (reduce_moved hps).length_eq]

theorem fullyCoveredBy_moved (hp : Moved months p p') :
    fullyCoveredBy p' ps' = fullyCoveredBy p ps := by
  have hbi : Relator.BiUnique (Moved months) :=
    ⟨fun _ _ _ hp hq => (hp.eq_iff hq).mpr rfl, fun _ _ _ hp hq => (hp.eq_iff hq).mp rfl⟩
  have hone : List.Forall₂ (Moved months) [p] [p'] := .cons hp .nil
  rw [fullyCoveredBy, fullyCoveredBy, decide_eq_decide]
  exact (Relator.rel_eq hbi.forall₂ (reduce_moved hps) hone).symm

end Separated

theorem subtract_moved (hp : Moved months p p') (hq : Moved months q q') :
    List.Forall₂ (Moved months) (p.subtract q) (p'.subtract q') := by
  apply (Period.separated_subtract p q).forall₂_moved (Period.separated_subtract p' q')
  intro month
  rw [Period.coversMonth_subtract, Period.coversMonth_subtract, hp.hasMonth_iff, hq.hasMonth_iff]

section InOrder

theorem sort_moved (hps : List.Forall₂ (Moved months) ps ps') :
    List.Forall₂ (Moved months) (sort ps) (sort ps') :=
  forall₂_mergeSort hps fun _ _ _ _ hp hq => decide_eq_decide.mpr (hp.le_iff hq)

theorem startsBy_moved (hps : List.Forall₂ (Moved months) ps ps') (latest : Int) :
    startsBy (latest + months) ps' = startsBy latest ps := by
  induction hps generalizing latest with
  | nil => rfl
  | cons hp _ ih =>
      obtain ⟨hfirst, hlast⟩ := Period.moved_iff.mp hp
      rw [startsBy, startsBy, hfirst, hlast, Int.max_add_right, ih]
      congr 1
      simp

theorem hasOverlapping_moved (hps : List.Forall₂ (Moved months) ps ps') :
    hasOverlapping ps' = hasOverlapping ps := by
  have hsorted := sort_moved hps
  unfold hasOverlapping
  generalize sort ps = sorted, sort ps' = sorted' at hsorted ⊢
  cases hsorted with
  | nil => rfl
  | cons hp hrest =>
      obtain ⟨-, hlast⟩ := Period.moved_iff.mp hp
      simp only [hlast, startsBy_moved hrest]

theorem span?_moved (hps : List.Forall₂ (Moved months) ps ps') :
    Option.Rel (Moved months) (span? ps) (span? ps') := by
  cases hps with
  | nil => exact .none
  | cons hp hrest => exact .some (List.rel_foldl (fun _ _ hp _ _ hq => hp.hull hq) hp hrest)

end InOrder

end Coverage

end Monthwise
