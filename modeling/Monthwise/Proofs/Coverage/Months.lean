import Monthwise.Coverage
import Monthwise.Proofs.Runs

/-! # Covered months

Covering a day and covering its month are the same, so two lists cover the same
days exactly when they cover the same months. A list also colours the months
that it covers; separated lists are the lists of runs of their own colouring,
and therefore determined by what they cover.
-/

namespace Monthwise.Coverage

variable {ps qs : List Period} {month : Int}

theorem covers_iff_coversMonth {d : Date} : Covers ps d ↔ CoversMonth ps d.monthNumber := by
  simp only [Covers, CoversMonth, Period.mem_iff_hasMonth]

theorem CoversMonth.inCalendar (h : CoversMonth ps month) : Calendar.HasMonth month := by
  obtain ⟨p, _, hm⟩ := h
  exact hm.inCalendar

/-- Lists cover the same days exactly if they cover the same months. -/
theorem forall_covers_iff :
    (∀ d, Covers ps d ↔ Covers qs d) ↔ ∀ m, CoversMonth ps m ↔ CoversMonth qs m := by
  constructor
  · intro hdays
    -- the first day of a month speaks for the whole month
    have hmonth {m : Int} (hm : Calendar.HasMonth m) : CoversMonth ps m ↔ CoversMonth qs m := by
      have hday := hdays (Calendar.firstDay m hm)
      rwa [covers_iff_coversMonth, covers_iff_coversMonth, Date.monthNumber_firstDay] at hday
    intro m
    exact ⟨fun h => (hmonth h.inCalendar).mp h, fun h => (hmonth h.inCalendar).mpr h⟩
  · intro hmonths d
    rw [covers_iff_coversMonth, covers_iff_coversMonth]
    exact hmonths d.monthNumber

@[simp]
theorem coversMonth_cons {p : Period} :
    CoversMonth (p :: ps) month ↔ p.HasMonth month ∨ CoversMonth ps month := by
  simp [CoversMonth]

theorem coversMonth_of_perm (hperm : ps.Perm qs) : CoversMonth ps month ↔ CoversMonth qs month := by
  simp only [CoversMonth, hperm.mem_iff]

instance (ps : List Period) (month : Int) : Decidable (CoversMonth ps month) :=
  inferInstanceAs (Decidable (∃ p ∈ ps, p.HasMonth month))

/-- The colouring of a list: covered months have the one colour there is. -/
def colour (ps : List Period) (month : Int) : Option Unit :=
  if CoversMonth ps month then some () else none

theorem colour_eq_none_iff : colour ps month = none ↔ ¬ CoversMonth ps month := by
  unfold colour
  split
  next hcovered => simp [hcovered]
  next hfree => simp [hfree]

theorem colour_ne_none_iff : colour ps month ≠ none ↔ CoversMonth ps month := by
  rw [Ne, colour_eq_none_iff, not_not]

theorem colour_eq_colour_iff {m n : Int} :
    colour ps m = colour qs n ↔ (CoversMonth ps m ↔ CoversMonth qs n) := by
  unfold colour
  split <;> split <;> simp_all

theorem colour_congr (hsame : ∀ m, CoversMonth ps m ↔ CoversMonth qs m) :
    colour ps = colour qs := by
  funext m
  exact colour_eq_colour_iff.mpr (hsame m)

theorem colour_joined {p : Period} (hp : p ∈ ps) (m : Int) (hfirst : p.first ≤ m)
    (hlast : m < p.last) : colour ps m = colour ps (m + 1) := by
  have hleft : CoversMonth ps m := ⟨p, hp, hfirst, by omega⟩
  have hright : CoversMonth ps (m + 1) := ⟨p, hp, by omega, by omega⟩
  exact colour_eq_colour_iff.mpr ⟨fun _ => hright, fun _ => hleft⟩

theorem Separated.inOrder (hsep : Separated ps) : InOrder ps := by
  refine List.Pairwise.imp ?_ hsep
  intro p q hfree
  omega

theorem Separated.free_beside (hsep : Separated ps) {p : Period} (hp : p ∈ ps) :
    ¬ CoversMonth ps (p.first - 1) ∧ ¬ CoversMonth ps (p.last + 1) := by
  have hbeside (q : Period) (hq : q ∈ ps) :
      p = q ∨ p.last + 1 < q.first ∨ q.last + 1 < p.first :=
    List.Pairwise.forall_of_forall_of_flip
      (R := fun p q => p = q ∨ p.last + 1 < q.first ∨ q.last + 1 < p.first)
      (fun _ _ => .inl rfl) (hsep.imp fun h => .inr (.inl h)) (hsep.imp fun h => .inr (.inr h))
      hp hq
  constructor <;>
  · rintro ⟨q, hq, hfirst, hlast⟩
    have hq' := hbeside q hq
    have hle := p.first_le_last
    rcases hq' with rfl | hafter | hbefore <;> omega

/-- A separated list holds the runs of what it covers. -/
theorem Separated.areRuns (hsep : Separated ps) : AreRuns (colour ps) ps where
  inOrder := hsep.inOrder
  isRun p hp := by
    obtain ⟨hbefore, hafter⟩ := hsep.free_beside hp
    have hfirst : CoversMonth ps p.first := ⟨p, hp, p.has_first⟩
    have hlast : CoversMonth ps p.last := ⟨p, hp, p.has_last⟩
    exact {
      coloured := fun m hm => colour_ne_none_iff.mpr ⟨p, hp, hm⟩
      joined := colour_joined hp
      opens := fun h => hbefore ((colour_eq_colour_iff.mp h).mpr hfirst)
      closes := fun h => hafter ((colour_eq_colour_iff.mp h).mp hlast) }
  exhaustive m hm := colour_ne_none_iff.mp hm

theorem Separated.eq_of_coversMonth_iff (hps : Separated ps) (hqs : Separated qs)
    (hsame : ∀ m, CoversMonth ps m ↔ CoversMonth qs m) : ps = qs := by
  have hruns := hqs.areRuns
  rw [← colour_congr hsame] at hruns
  exact hps.areRuns.unique hruns

end Monthwise.Coverage
