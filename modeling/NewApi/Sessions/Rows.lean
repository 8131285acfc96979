import NewApi.Sessions.Calls

/-! What the statements of the calls do to the rows of the sessions. -/
namespace NewApi.Sessions
open Keyed Option
variable {s : AuthStore} {sid : String} (edit : Edit) (row : UserSession)

theorem Edit.sid_apply : (edit.apply row).sid=row.sid := by
  cases edit <;> rfl

theorem Edit.expiresAt_apply : (edit.apply row).expiresAt=row.expiresAt := by
  cases edit <;> rfl

theorem Edit.userID_apply : (edit.apply row).userID=row.userID := by
  cases edit <;> rfl

theorem Edit.version_apply : row.version≤(edit.apply row).version := by
  cases edit with
  | advanceAuth nextUserAuthVersion now => exact Int.le_add_of_nonneg_right (by decide)
  | _ => exact Int.le_refl _

variable {row session : UserSession}

theorem Edit.status_apply (edit : Edit) (h : row.status=.active) : (edit.apply row).status=.active ↔ edit.revokes=false := by
  cases edit <;> simp [Edit.apply,Edit.revokes,UserSession.revoke,UserSession.rotate,UserSession.advanceAuth,h]

theorem active_of_live {now : Int} (h : row.live now=true) : row.status=.active :=
  of_decide_eq_true (Bool.and_eq_true_iff.mp h).1

theorem head_query {select : UserSession → Bool} (hunique : Unique UserSession.sid s.rows) (sid : String)
    (hselect : ∀ row, select row=true → row.sid=sid) (h : (s.rows.filter select).head? = some session) :
    s.row sid=some session ∧ session.sid=sid := by
  obtain ⟨hmem,hsession⟩ := List.mem_filter.mp (List.mem_of_head? h)
  have hsid := hselect session hsession
  exact ⟨hsid ▸ lookup_of_mem hunique hmem,hsid⟩

theorem row_update (s : AuthStore) (select : UserSession → Bool) (edit : Edit) (sid : String) :
    (s.update select edit).row sid=(s.row sid).map fun row => if select row then edit.apply row else row := by
  apply lookup_map
  intro row
  split
  · exact edit.sid_apply row
  · rfl

theorem row_sid (h : s.row sid=some row) : row.sid=sid := (lookup_some h).2

theorem mem_selected (h : Keyed.Unique (·.sid) s.rows) {select : UserSession → Bool} :
    sid∈s.selected select ↔ ∃ row, s.row sid=some row ∧ select row := by
  constructor
  · intro hmem
    obtain ⟨row,hrow,rfl⟩ := List.mem_map.mp hmem
    obtain ⟨hrow,hselect⟩ := List.mem_filter.mp hrow
    exact ⟨row,lookup_of_mem h hrow,hselect⟩
  · rintro ⟨row,hrow,hselect⟩
    obtain ⟨hmem,hsid⟩ := lookup_some hrow
    exact List.mem_map.mpr ⟨row,List.mem_filter.mpr ⟨hmem,hselect⟩,hsid⟩

theorem row_insert (h : s.row sid=some row) : (s.insert session).row sid=some row := by
  rw [AuthStore.row,AuthStore.insert,lookup_append]
  rw [AuthStore.row] at h
  rw [h,some_or]

theorem row_insert_self (h : s.row session.sid=none) : (s.insert session).row session.sid=some session := by
  rw [AuthStore.row,AuthStore.insert,lookup_append]
  rw [AuthStore.row] at h
  rw [h,none_or,lookup_cons,if_pos rfl]

theorem row_insert_some (h : (s.insert session).row sid=some row) : s.row sid=some row ∨ (sid=session.sid ∧ row=session) := by
  rw [AuthStore.row,AuthStore.insert,lookup_append] at h
  cases hrow : s.row sid with
  | some row' =>
    rw [AuthStore.row] at hrow
    rw [hrow,some_or] at h
    exact .inl h
  | none =>
    rw [AuthStore.row] at hrow
    rw [hrow,none_or,lookup_cons] at h
    split at h
    next hsid =>
      exact .inr ⟨hsid.symm,(Option.some.inj h).symm⟩
    · cases h

theorem unique_update (h : Keyed.Unique (·.sid) s.rows) (select : UserSession → Bool) (edit : Edit) :
    Keyed.Unique (·.sid) (s.update select edit).rows := by
  have hkeys : (s.update select edit).rows.map (·.sid)=s.rows.map (·.sid) := by
    rw [AuthStore.update,List.map_map]
    apply List.map_congr_left
    intro row _
    simp only [Function.comp_apply]
    split
    · exact edit.sid_apply row
    · rfl
  rw [Keyed.Unique,hkeys]
  exact h

end NewApi.Sessions
