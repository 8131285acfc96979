import Mathlib.Algebra.Order.BigOperators.Group.List
import NewApi.Archive.Queue

/-! The counters of the queue against the jobs that it holds. -/
namespace NewApi.Archive
open List Keyed
variable (jobs : List RequestArchiveJob)

def activeCount (jobs : List RequestArchiveJob) : Int := (jobs.filter (·.status.active)).length

def activeBytes (jobs : List RequestArchiveJob) : Int := ((jobs.filter (·.status.active)).map RequestArchiveJob.byteSize).sum

structure Accounts (s : ArchiveState) : Prop where
  count : s.queue.activeCount=activeCount s.jobs
  bytes : s.queue.activeBytes=activeBytes s.jobs
  unclamped : s.queue.clamped=false

def RequestArchiveJob.place (row : RequestArchiveJob) : Int := if row.status.active then 1 else 0

def RequestArchiveJob.load (row : RequestArchiveJob) : Int := if row.status.active then row.byteSize else 0

theorem activeCount_eq : activeCount jobs=(jobs.map RequestArchiveJob.place).sum := by
  have hones : ∀ rows : List RequestArchiveJob, (rows.length : Int)=(rows.map fun _ => (1 : Int)).sum := by simp
  rw [activeCount,hones,sum_filter]
  rfl

theorem activeBytes_eq : activeBytes jobs=(jobs.map RequestArchiveJob.load).sum :=
  sum_filter _ _ jobs

section Updates
variable {s : ArchiveState} {select : RequestArchiveJob → Bool} {edit : RequestArchiveJob → RequestArchiveJob}

theorem Accounts.update (h : Accounts s)
    (hedit : ∀ row, select row=true → (edit row).status.active=row.status.active ∧ (edit row).byteSize=row.byteSize) :
    Accounts (s.update select edit) := by
  have hplace : ∀ row : RequestArchiveJob, (if select row then edit row else row).place=row.place := fun row => by
    by_cases hrow : select row=true
    · rw [if_pos hrow,RequestArchiveJob.place,(hedit row hrow).1,RequestArchiveJob.place]
    · rw [if_neg hrow]
  have hload : ∀ row : RequestArchiveJob, (if select row then edit row else row).load=row.load := fun row => by
    by_cases hrow : select row=true
    · rw [if_pos hrow,RequestArchiveJob.load,(hedit row hrow).1,(hedit row hrow).2,RequestArchiveJob.load]
    · rw [if_neg hrow]
  refine ⟨h.count.trans ?_,h.bytes.trans ?_,h.unclamped⟩
  · rw [activeCount_eq,activeCount_eq,ArchiveState.update,map_map]
    exact congrArg List.sum (map_congr_left fun row _ => (hplace row).symm)
  · rw [activeBytes_eq,activeBytes_eq,ArchiveState.update,map_map]
    exact congrArg List.sum (map_congr_left fun row _ => (hload row).symm)

end Updates

theorem release_eq {state : RequestArchiveQueueState} {count bytes : Int} (hcount : 0≤count) (hbytes : 0≤bytes)
    (hcount' : count ≤ state.activeCount) (hbytes' : bytes ≤ state.activeBytes) :
    state.release count bytes =
      { activeCount := state.activeCount-count, activeBytes := state.activeBytes-bytes, clamped := state.clamped } := by
  rw [RequestArchiveQueueState.release,if_neg (Int.not_lt.mpr hcount),if_neg (Int.not_lt.mpr hbytes)]
  simp only [ge_iff_le,hcount',hbytes',if_true,Int.not_lt.mpr hcount',Int.not_lt.mpr hbytes',decide_false,Bool.or_false]

section Removals
variable {jobs : List RequestArchiveJob}

structure Removal.Balanced (r : Removal) (jobs : List RequestArchiveJob) : Prop where
  left : r.jobs.Sublist jobs
  count : activeCount r.jobs+r.retainedCount=activeCount jobs
  bytes : activeBytes r.jobs+r.retainedBytes=activeBytes jobs
  count_nonneg : 0≤r.retainedCount
  bytes_nonneg : 0≤r.retainedBytes
  empty : r.retainedCount=0 → r.retainedBytes=0

theorem Removal.Balanced.init (jobs : List RequestArchiveJob) : Removal.Balanced { jobs } jobs :=
  ⟨List.Sublist.refl _,Int.add_zero _,Int.add_zero _,Int.le_refl _,Int.le_refl _,fun _ => rfl⟩

theorem filter_of_id {rows : List RequestArchiveJob} (hids : Unique RequestArchiveJob.id rows) {select : RequestArchiveJob → Bool} {id : Int}
    (hselect : ∀ row, select row=true → row.id=id) : rows.filter select=[] ∨ ∃ row, rows.filter select=[row] := by
  have hfilter : Unique RequestArchiveJob.id (rows.filter select) := hids.filter select
  match hrows : rows.filter select with
  | [] => exact .inl rfl
  | [row] => exact .inr ⟨row,rfl⟩
  | a::b::rest =>
    have hmem : ∀ row∈rows.filter select, row.id=id := fun row hrow => hselect row (mem_filter.mp hrow).2
    rw [hrows] at hfilter hmem
    have hab : a.id=b.id := (hmem a mem_cons_self).trans (hmem b (mem_cons_of_mem _ mem_cons_self)).symm
    have hne := (nodup_cons.mp hfilter).1
    rw [map_cons,hab] at hne
    exact absurd mem_cons_self hne

theorem Removal.Balanced.delete {r : Removal} (h : r.Balanced jobs) (hids : Unique RequestArchiveJob.id jobs)
    {select : RequestArchiveJob → Bool} {id : Int} {status : JobStatus} {byteSize : Int} (hid : ∀ row, select row=true → row.id=id)
    (hsettled : status=.done ∨ status=.failed)
    (hrow : ∀ row∈jobs, select row=true → row.status=status ∧ row.byteSize=byteSize ∧ 0≤row.byteSize) :
    (r.delete select status byteSize).Balanced jobs := by
  have hsplit : ∀ g : RequestArchiveJob → Int, ((r.jobs.filter select).map g).sum+((r.jobs.filter fun row => !select row).map g).sum =
      (r.jobs.map g).sum := fun g => by
    have hsum := sum_filter_or (p := select) (q := fun row => !select row) (by simp) r.jobs g
    simpa using hsum.symm
  have hleft : (r.jobs.filter fun row => !select row).Sublist jobs := filter_sublist.trans h.left
  have hcount := hsplit RequestArchiveJob.place
  have hbytes := hsplit RequestArchiveJob.load
  rw [← activeCount_eq (r.jobs.filter fun row => !select row),← activeCount_eq r.jobs] at hcount
  rw [← activeBytes_eq (r.jobs.filter fun row => !select row),← activeBytes_eq r.jobs] at hbytes
  have hcountOld := h.count
  have hbytesOld := h.bytes
  rw [Removal.delete]
  rcases filter_of_id (hids.sublist (h.left.map _)) hid with hnone | ⟨row,hone⟩
  · rw [hnone] at hcount hbytes ⊢
    simp only [map_nil,sum_nil,Int.zero_add] at hcount hbytes
    rw [if_pos (by simp)]
    exact ⟨hleft,by rw [hcount]; exact hcountOld,by rw [hbytes]; exact hbytesOld,h.count_nonneg,h.bytes_nonneg,h.empty⟩
  · have hmem : row∈r.jobs.filter select := hone ▸ mem_singleton_self row
    obtain ⟨hstatus,hsize,hnonneg⟩ := hrow row (h.left.subset (mem_filter.mp hmem).1) (mem_filter.mp hmem).2
    rw [hone] at hcount hbytes ⊢
    simp only [map_cons,map_nil,sum_cons,sum_nil,Int.add_zero] at hcount hbytes
    rw [if_neg (by simp)]
    rcases hsettled with rfl | rfl
    · have hplace : row.place=0 := by rw [RequestArchiveJob.place,hstatus]; rfl
      have hload : row.load=0 := by rw [RequestArchiveJob.load,hstatus]; rfl
      rw [if_neg (by decide)]
      refine ⟨hleft,?_,?_,h.count_nonneg,h.bytes_nonneg,h.empty⟩ <;> dsimp only <;> omega
    · have hplace : row.place=1 := by rw [RequestArchiveJob.place,hstatus]; rfl
      have hload : row.load=byteSize := by rw [RequestArchiveJob.load,hstatus,← hsize]; rfl
      have hpos := h.count_nonneg
      have hpos' := h.bytes_nonneg
      rw [if_pos rfl]
      refine ⟨hleft,?_,?_,?_,?_,fun hzero => ?_⟩ <;> dsimp only at * <;> omega

theorem Accounts.remove {s : ArchiveState} (h : Accounts s) (hsize : ∀ row∈s.jobs, 0≤row.byteSize) {r : Removal}
    (hr : r.Balanced s.jobs) : Accounts (s.remove r) := by
  have hcount := hr.count
  have hbytes := hr.bytes
  have hcountOld := h.count
  have hbytesOld := h.bytes
  rw [ArchiveState.remove]
  split
  next hzero =>
    have hempty := hr.empty hzero
    refine ⟨?_,?_,h.unclamped⟩ <;> dsimp only <;> omega
  next hne =>
    have hleft : 0≤activeCount r.jobs := Int.natCast_nonneg _
    have hleft' : 0≤activeBytes r.jobs := sum_nonneg fun bytes hbytes => by
      obtain ⟨row,hrow,rfl⟩ := mem_map.mp hbytes
      exact hsize row (hr.left.subset (mem_filter.mp hrow).1)
    have hrelease := @release_eq s.queue _ _ hr.count_nonneg hr.bytes_nonneg (by omega) (by omega)
    rw [hrelease]
    refine ⟨?_,?_,h.unclamped⟩ <;> dsimp only <;> omega

end Removals

end NewApi.Archive
