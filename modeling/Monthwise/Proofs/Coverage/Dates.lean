import Mathlib.Data.Set.Disjoint
import Monthwise.Proofs.Coverage.Months

/-! # Sets of dates

A period stands for the set of its dates, and a list of periods for the dates
that its members cover. A run is a set of dates without holes. The members of a
separated list are the longest runs of the dates that the list covers, so a
separated list can be told from its dates.
-/

namespace Monthwise

/-- The dates are one run: between two of them no date is missing. -/
structure Unbroken (dates : Set Date) : Prop where
  nonempty : dates.Nonempty
  between : ∀ a ∈ dates, ∀ c ∈ dates, ∀ b, a ≤ b → b ≤ c → b ∈ dates

/-- A run among the dates that is part of no longer one. -/
def IsLongestRun (dates run : Set Date) : Prop :=
  Maximal (fun run => Unbroken run ∧ run ⊆ dates) run

/-- The dates of a period. -/
def Period.dates (p : Period) : Set Date := {d | d ∈ p}

/-- The dates that some member of the list has. -/
def Coverage.dates (ps : List Period) : Set Date := {d | Covers ps d}

/-- The periods are the longest runs of the dates, all of them and in chronological order. -/
structure AreLongestRuns (dates : Set Date) (ps : List Period) : Prop where
  chronological : ps.Pairwise fun p q => p.stop < q.start
  isLongestRun_iff : ∀ run, IsLongestRun dates run ↔ ∃ p ∈ ps, p.dates = run

theorem Date.le_of_monthNumber_lt {a b : Date} (h : a.monthNumber < b.monthNumber) : a ≤ b := by
  have ha := a.month_mem
  have hb := b.month_mem
  rw [le_def]
  unfold monthNumber at h
  omega

namespace Unbroken

variable {dates : Set Date} {a c : Date}

/-- A run passes over no month. -/
theorem exists_monthNumber (hdates : Unbroken dates) (ha : a ∈ dates) (hc : c ∈ dates)
    (month : Int) (hfirst : a.monthNumber ≤ month) (hlast : month ≤ c.monthNumber) :
    ∃ b ∈ dates, b.monthNumber = month := by
  rcases Int.lt_or_eq_of_le hfirst with hlt | rfl
  · have hmonth : Calendar.HasMonth month :=
      ⟨Int.le_trans a.hasMonth_monthNumber.1 hfirst, Int.le_trans hlast c.hasMonth_monthNumber.2⟩
    have hday := Date.monthNumber_firstDay month hmonth
    refine ⟨Calendar.firstDay month hmonth, ?_, hday⟩
    apply hdates.between a ha c hc
    · exact Date.le_of_monthNumber_lt (by omega)
    · exact (Calendar.firstDay_le_iff hmonth).mpr hlast
  · exact ⟨a, ha, rfl⟩

end Unbroken

namespace Period

variable {p q : Period}

@[simp]
theorem mem_dates {d : Date} : d ∈ p.dates ↔ p.HasMonth d.monthNumber := mem_iff_hasMonth

theorem start_mem_dates (p : Period) : p.start ∈ p.dates := by
  simpa using p.has_first

theorem stop_mem_dates (p : Period) : p.stop ∈ p.dates := by
  simpa using p.has_last

theorem unbroken_dates (p : Period) : Unbroken p.dates where
  nonempty := ⟨p.start, p.start_mem_dates⟩
  between a ha c hc b hab hbc := by
    rw [mem_dates] at ha hc ⊢
    exact ⟨Int.le_trans ha.1 (Date.monthNumber_le_of_le hab),
      Int.le_trans (Date.monthNumber_le_of_le hbc) hc.2⟩

theorem dates_subset_iff : q.dates ⊆ p.dates ↔ p.first ≤ q.first ∧ q.last ≤ p.last := by
  constructor
  · intro hsubset
    have hfirst := hsubset q.start_mem_dates
    have hlast := hsubset q.stop_mem_dates
    rw [mem_dates, monthNumber_start] at hfirst
    rw [mem_dates, monthNumber_stop] at hlast
    exact ⟨hfirst.1, hlast.2⟩
  · intro hinside d hd
    rw [mem_dates] at hd ⊢
    exact ⟨Int.le_trans hinside.1 hd.1, Int.le_trans hd.2 hinside.2⟩

theorem dates_injective (h : p.dates = q.dates) : p = q := by
  have hpq := dates_subset_iff.mp h.le
  have hqp := dates_subset_iff.mp h.ge
  apply Period.ext <;> omega

theorem stop_lt_start_iff : p.stop < q.start ↔ p.last < q.first := by
  rw [← not_iff_not, Date.not_lt, start, Calendar.firstDay_le_iff, monthNumber_stop, Int.not_lt]

end Period

namespace Coverage

variable {ps : List Period} {d : Date}

@[simp]
theorem mem_dates : d ∈ dates ps ↔ CoversMonth ps d.monthNumber := covers_iff_coversMonth

theorem dates_subset_of_mem {p : Period} (hp : p ∈ ps) : p.dates ⊆ dates ps :=
  fun _ hd => ⟨p, hp, hd⟩

/-- A run among the dates of a separated list does not get out of the member that it meets. -/
theorem Separated.subset_of_unbroken (hsep : Separated ps) {p : Period} (hp : p ∈ ps)
    {run : Set Date} (hrun : Unbroken run) (hsubset : run ⊆ dates ps) (hd : d ∈ run)
    (hdp : d ∈ p.dates) : run ⊆ p.dates := by
  intro c hc
  obtain ⟨hbefore, hafter⟩ := hsep.free_beside hp
  -- a month beside `p` that the run reaches would be covered
  have hfree {month : Int} (hmonth : ∃ b ∈ run, b.monthNumber = month) : CoversMonth ps month := by
    obtain ⟨b, hb, rfl⟩ := hmonth
    exact mem_dates.mp (hsubset hb)
  rw [Period.mem_dates] at hdp ⊢
  constructor
  · by_contra hlt
    exact hbefore (hfree (hrun.exists_monthNumber hc hd _ (by omega) (by have := hdp.1; omega)))
  · by_contra hlt
    exact hafter (hfree (hrun.exists_monthNumber hd hc _ (by have := hdp.2; omega) (by omega)))

theorem Separated.areLongestRuns (hsep : Separated ps) : AreLongestRuns (dates ps) ps where
  chronological := hsep.inOrder.imp fun hlt => Period.stop_lt_start_iff.mpr hlt
  isLongestRun_iff run := by
    constructor
    · rintro ⟨⟨hrun, hsubset⟩, hlongest⟩
      obtain ⟨d, hd⟩ := hrun.nonempty
      obtain ⟨p, hp, hdp⟩ := hsubset hd
      have hinside := hsep.subset_of_unbroken hp hrun hsubset hd hdp
      have hwhole := hlongest ⟨p.unbroken_dates, dates_subset_of_mem hp⟩ hinside
      exact ⟨p, hp, Set.Subset.antisymm hwhole hinside⟩
    · rintro ⟨p, hp, rfl⟩
      refine ⟨⟨p.unbroken_dates, dates_subset_of_mem hp⟩, ?_⟩
      intro run ⟨hrun, hsubset⟩ hinside
      exact hsep.subset_of_unbroken hp hrun hsubset (hinside p.start_mem_dates) p.start_mem_dates

end Coverage

end Monthwise
