import OutputArranger.Proofs.RefusedMode
import OutputArranger.Proofs.Session.EveryHead

/-!
# A head all of whose modes fail

A run in which requests for modes of one head fail and all others succeed. Every failure counts, but
it leaves the head one usable mode less. So the changes are not given up if the failures that count
and the modes that are usable are together not more than the failures that are allowed.
-/

namespace OutputArranger

/-- Whether a request is for a mode of the head. -/
def Transaction.isFor (id : HeadId) (t : Transaction) : Bool :=
  t.modeChange.any fun change => decide (change.1 = id)

theorem Transaction.exists_mode_of_isFor {id : HeadId} {t : Transaction} (h : t.isFor id = true) :
    ∃ m, t = ⟨some (id, m)⟩ := by
  obtain ⟨_ | ⟨head, m⟩⟩ := t
  · simp [isFor] at h
  · obtain rfl : head = id := by simpa [isFor] using h
    exact ⟨m, rfl⟩

/-- Whether a request is for a mode of the head that is not usable, or not any more. -/
def Transaction.isStale (h : Head) (t : Transaction) : Bool :=
  t.modeChange.any fun change => decide (change.1 = h.id) && h.usableModes.all (·.id != change.2)

theorem Transaction.exists_mode_of_isStale {h : Head} {t : Transaction}
    (hstale : t.isStale h = true) :
    ∃ m, t = ⟨some (h.id, m)⟩ ∧ ∀ mode ∈ h.usableModes, mode.id ≠ m := by
  obtain ⟨_ | ⟨head, m⟩⟩ := t
  · simp [isStale] at hstale
  · obtain ⟨rfl, hgone⟩ : head = h.id ∧ ∀ mode ∈ h.usableModes, mode.id ≠ m := by
      simpa [isStale] using hstale
    exact ⟨m, rfl, hgone⟩

namespace Session

/-- What may be reported of a head when nothing happens but what was asked for: its mode is the one
that an open request is for, or the one that it is known to be in. -/
def mayFollow (s : Session) (head : HeadId) : HeadReport → Prop
  | .enabled _ => True
  | .position _ _ => True
  | .transform _ => True
  | .scale _ => True
  | .currentMode m => s.transaction = some ⟨some (head, m)⟩ ∨
      ∃ h ∈ s.outputs.heads, h.id = head ∧ h.currentMode = some m
  | _ => False

/-- A move of a run in which requests for modes of one head fail and all others succeed and are
reported. -/
def FailsOnly (id : HeadId) (s : Session) : Move → Prop
  | .pass _ => True
  | .event (.headReported head r) => s.mayFollow head r
  | .event (.managerDone _) => True
  | .event (.resolved .succeeded) => ∃ t, s.transaction = some t ∧ t.isFor id = false
  | .event (.resolved .failed) => ∃ t, s.transaction = some t ∧ t.isFor id = true
  | .event _ => False

theorem not_givingUp_succeeded (s : Session) : ¬ s.GivingUp (.event (.resolved .succeeded)) :=
  Bool.eq_false_iff.mp (s.record (.resolved .succeeded)).abandoned_succeeded

/-- How many failures will count when a request for a mode of the head is answered next. A request
for anything else that is open is going to succeed, and after the next pass none count if there is
something to report. -/
def spent (id : HeadId) (s : Session) : Nat :=
  match s.transaction with
  | some t => if t.isFor id then s.outputs.retries else 0
  | none => if s.hasNews then 0 else s.outputs.retries

/-- How many requests for modes of the head can fail: one for each usable mode, and the open one if
its mode is not usable any more. -/
def attempts (s : Session) (h : Head) : Nat :=
  h.usableModes.length + (s.transaction.any (·.isStale h)).toNat

theorem spent_le (id : HeadId) (s : Session) : s.spent id ≤ s.outputs.retries := by
  unfold spent
  split
  · split <;> omega
  · split <;> omega

theorem spent_of_closed {s : Session} (ht : s.transaction = none) (id : HeadId) :
    s.spent id = s.aimed.outputs.retries := by
  rw [spent, ht]
  exact s.refreshed_news.2.symm

theorem length_le_attempts (s : Session) (h : Head) : h.usableModes.length ≤ s.attempts h :=
  Nat.le_add_right _ _

theorem attempts_of_not_stale {s : Session} {h : Head}
    (hfresh : ∀ m, s.transaction = some ⟨some (h.id, m)⟩ → ∃ mode ∈ h.usableModes, mode.id = m) :
    s.attempts h = h.usableModes.length := by
  have hstale : s.transaction.any (·.isStale h) = false := by
    rw [Option.any_eq_false]
    intro t ht
    cases hstale : t.isStale h with
    | false => simp
    | true =>
        obtain ⟨m, rfl, hgone⟩ := Transaction.exists_mode_of_isStale hstale
        obtain ⟨mode, hmode, hid⟩ := hfresh m ht
        exact absurd hid (hgone mode hmode)
  rw [attempts, hstale]
  rfl

/-- A request that is open after a pass that found none open is the one that the pass has sent. -/
theorem sent_of_transaction {s : Session} (hclosed : s.transaction = none) {accepts : Acceptance}
    {change : Option (HeadId × ModeId)}
    (ht : (s.layout accepts).session.transaction = some ⟨change⟩) :
    ∃ r, (s.layout accepts).sent = some r ∧ r.modeChange? = change := by
  have hraw := s.refreshed_frame.2.1.trans hclosed
  have haimed : s.aimed.transaction = none := hraw
  cases s.layout_ending accepts with
  | waiting _ hp => simp [hp, hraw] at ht
  | standingBack _ hp => simp [hp, hraw] at ht
  | resting _ _ _ hp => simp [hp, hraw] at ht
  | agreeing _ _ hp => simp [hp, haimed] at ht
  | refused _ _ _ _ _ hp => simp [hp, haimed] at ht
  | sending r _ _ _ hp hsent =>
      refine ⟨r, hsent, ?_⟩
      rw [hp] at ht
      exact congrArg Transaction.modeChange (Option.some.inj ht)

theorem attempts_failMode {s : Session} {h : Head} {m : ModeId}
    (hids : (h.modes.map (·.id)).Nodup) (ht : s.transaction = some ⟨some (h.id, m)⟩) :
    (Transaction.failMode m h).usableModes.length + 1 ≤ s.attempts h := by
  by_cases husable : ∃ mode ∈ h.usableModes, mode.id = m
  · obtain ⟨mode, hmode, rfl⟩ := husable
    rw [Head.length_usableModes_failMode hids hmode]
    exact s.length_le_attempts h
  · have hstale : Transaction.isStale h ⟨some (h.id, m)⟩ = true := by
      simpa [Transaction.isStale] using husable
    have hle : (Transaction.failMode m h).usableModes.length ≤ h.usableModes.length := by
      rw [Head.usableModes_failMode]
      exact List.length_filter_le _ _
    rw [attempts, ht, Option.any_some, hstale]
    exact Nat.succ_le_succ hle

/-- A request that has just been sent for a mode is for a usable one. -/
theorem attempts_layout {s : Session} (hs : s.Reachable) (hc : s.computes) (accepts : Acceptance)
    {h : Head} (hh : h ∈ (s.layout accepts).session.outputs.heads) :
    (s.layout accepts).session.attempts h = h.usableModes.length := by
  refine attempts_of_not_stale fun m ht => ?_
  obtain ⟨r, hsent, hchange⟩ := sent_of_transaction (hs.sound.transaction_eq_none hc.1) ht
  obtain ⟨_, hplan⟩ := plan_of_sent hsent
  have hmem : h.unmarked ∈ s.aimed.outputs.heads := by
    rw [← unmarked_layout hs.sound hc accepts]
    exact List.mem_map_of_mem hh
  exact (Request.usable_of_modeChange? (hs.sound.aimed_heads hc.1) hplan hmem hchange).2

/-! ## A head with few usable modes -/

/-- Together with the failures that will count, the usable modes of the head are not more than the
failures that are allowed. -/
structure Patient (id : HeadId) (s : Session) : Prop where
  reachable : s.Reachable
  room : ∃ h ∈ s.outputs.heads, h.id = id ∧ s.spent id + s.attempts h ≤ maxRetries

/-- What decides about how many requests for modes of a head can fail. -/
theorem ignoresNotes_usableModes : IgnoresNotes fun h => (h.id, h.usableModes) :=
  fun _ _ _ _ _ _ _ => rfl

namespace Patient

variable {id : HeadId} {s t : Session}

theorem of_map (hs : s.Patient id) (ht : t.Reachable)
    (hheads : (t.outputs.heads.map fun h => (h.id, h.usableModes)) =
      s.outputs.heads.map fun h => (h.id, h.usableModes))
    (hspent : t.spent id ≤ s.spent id)
    (hattempts : ∀ h, t.attempts h ≤ s.attempts h) : t.Patient id := by
  obtain ⟨h, hh, rfl, hroom⟩ := hs.room
  obtain ⟨h', hh', hsame⟩ := List.mem_map.mp (hheads ▸ List.mem_map_of_mem hh)
  obtain ⟨hid, hmodes⟩ := Prod.mk.inj hsame
  have hcount : s.attempts h' = s.attempts h := by
    simp only [attempts, Transaction.isStale, hid, hmodes]
  refine ⟨ht, h', hh', hid, ?_⟩
  have hle := hattempts h'
  omega

theorem succeeded (hs : s.Patient id) :
    (s.handle (.resolved .succeeded)).session.Patient id := by
  have hout := outputs_succeeded (hs.reachable.sound.record (.resolved .succeeded)).distinct
  have houtputs : (s.handle (.resolved .succeeded)).session.outputs = { s.outputs with
      heads := s.outputs.heads.map (Transaction.settled (s.transaction.bind (·.modeChange)))
      retries := 0 } := hout
  refine hs.of_map (hs.reachable.run [.event _]) ?_ ?_ fun h => ?_
  · rw [houtputs, List.map_map]
    rfl
  · have hle := (s.handle (.resolved .succeeded)).session.spent_le id
    rw [houtputs] at hle
    exact Nat.le_trans hle (Nat.zero_le _)
  · exact s.length_le_attempts h

/-- A failure counts, but it leaves one request less that can fail. -/
theorem failed (hs : s.Patient id) (he : s.FailsOnly id (.event (.resolved .failed))) :
    (s.handle (.resolved .failed)).session.Patient id ∧
      ¬ s.GivingUp (.event (.resolved .failed)) := by
  obtain ⟨t, ht, hfor⟩ := he
  obtain ⟨m, rfl⟩ := Transaction.exists_mode_of_isFor hfor
  obtain ⟨h, hh, rfl, hroom⟩ := hs.room
  have hids := (hs.reachable.sound.record (.resolved .failed)).distinct
  have hspent : s.spent h.id = s.outputs.retries := by simp [spent, ht, hfor]
  have hfewer : (Transaction.failMode m h).usableModes.length + 1 ≤ s.attempts h :=
    s.attempts_failMode (hs.reachable.nodup_modes hh) ht
  have hout : (s.handle (.resolved .failed)).session.outputs =
      { Transaction.attempted s.outputs .failed (some (h.id, m)) with dirty := true } := by
    have hattempt := outputs_unsuccessful hids (show Outcome.failed ≠ .succeeded by decide)
    have hchange : (s.record (.resolved .failed)).transaction = some ⟨some (h.id, m)⟩ := ht
    rw [hchange] at hattempt
    exact hattempt.trans (if_pos (by change s.outputs.retries + 1 ≤ maxRetries; omega))
  have hgoesOn := abandoned_of_lt hids (by change s.outputs.retries < maxRetries; omega) .failed
  refine ⟨⟨hs.reachable.run [.event _], ?_⟩, Bool.eq_false_iff.mp hgoesOn⟩
  refine ⟨Transaction.undone .failed (some (h.id, m)) h, ?_, ?_, ?_⟩
  · rw [hout]
    exact List.mem_map_of_mem hh
  · simp [Transaction.undone, Transaction.failMode]
  · have hcount := (s.handle (.resolved .failed)).session.spent_le h.id
    have hrest : (s.handle (.resolved .failed)).session.attempts
        (Transaction.undone .failed (some (h.id, m)) h) =
          (Transaction.failMode m h).usableModes.length := by
      simp only [Transaction.undone, if_true]
      rfl
    rw [hout] at hcount
    change _ ≤ s.outputs.retries + 1 at hcount
    omega

theorem layout (hs : s.Patient id) (accepts : Acceptance) :
    (s.layout accepts).session.Patient id := by
  have hreach := hs.reachable.layout accepts
  have hheads := ignoresNotes_usableModes.map_layout s accepts
  obtain ⟨hnews, _, hretries⟩ := s.layout_news accepts
  by_cases hc : s.computes
  · have hclosed : s.transaction = none := hs.reachable.sound.transaction_eq_none hc.1
    have hspent : s.spent id = (s.layout accepts).session.outputs.retries := by
      rw [hretries, spent, hclosed]
    obtain ⟨h, hh, hid, hroom⟩ := hs.room
    obtain ⟨h', hh', hsame⟩ := List.mem_map.mp (hheads ▸ List.mem_map_of_mem hh)
    obtain ⟨hid', hmodes⟩ := Prod.mk.inj hsame
    have hfresh := attempts_layout hs.reachable hc accepts hh'
    have hle := (s.layout accepts).session.spent_le id
    have hlength := s.length_le_attempts h
    exact ⟨hreach, h', hh', hid'.trans hid, by rw [hfresh, hmodes]; omega⟩
  · obtain ⟨_, ht, _⟩ := layout_of_not_computes hc accepts
    refine hs.of_map hreach hheads ?_ fun h => by rw [attempts, ht, attempts]
    rw [spent, ht, hnews, hretries, spent]
    cases s.transaction with
    | none => exact Nat.le_refl _
    | some t =>
        dsimp only
        split
        · split <;> omega
        · exact Nat.le_refl 0

theorem after (hs : s.Patient id) {m : Move} (hm : s.FailsOnly id m) :
    (s.after m).Patient id ∧ ¬ s.GivingUp m := by
  cases m with
  | pass accepts => exact ⟨hs.layout accepts, fun h => h⟩
  | event e =>
      have hreach := hs.reachable.run [.event e]
      cases e with
      | headReported head r =>
          refine ⟨hs.of_map hreach ?_ (Nat.le_refl _) fun _ => Nat.le_refl _, fun h => h⟩
          exact map_updateFirst (fun h : Head => (h.id, h.usableModes))
            (fun h _ => by cases r <;> rfl) s.outputs.heads
      | managerDone serial =>
          exact ⟨hs.of_map hreach rfl (Nat.le_refl _) fun _ => Nat.le_refl _, fun h => h⟩
      | resolved outcome =>
          cases outcome with
          | succeeded => exact ⟨hs.succeeded, s.not_givingUp_succeeded⟩
          | failed => exact hs.failed hm
          | cancelled => exact hm.elim
      | _ => exact hm.elim

theorem not_sometime_givingUp (hs : s.Patient id)
    {moves : List Move} (hm : s.Throughout (FailsOnly id) moves) : ¬ s.Sometime GivingUp moves :=
  not_sometime_of_preserved (fun _ _ h => h.after) hs hm

end Patient

/-- A head that is not the first one to get a mode is waited for if it has few usable ones. -/
theorem patient_layout {s : Session} (hs : s.Reachable) (hc : s.computes) {a : Head}
    (ha : a ∈ s.aimed.outputs.heads) (hneeds : Request.needsMode a = true)
    (hlater : s.aimed.outputs.heads.find? Request.needsMode ≠ some a)
    (hfew : a.usableModes.length ≤ maxRetries) : (s.layout .always).session.Patient a.id := by
  have haimed := hs.sound.aimed_heads hc.1
  have hchanging := Request.isChanging_of_needsMode hneeds
  obtain ⟨r, hplan⟩ : ∃ r, Request.plan s.aimed.outputs.heads s.aimed.outputs.serial = some r := by
    rw [← Option.isSome_iff_exists, Option.isSome_iff_ne_none, ne_eq, Request.plan_eq_none_iff]
    exact fun hstill => by simp [hstill a ha] at hchanging
  have hp := (layout_of_plan_some hc hplan .always rfl).1
  have ht : (s.layout .always).session.transaction = some ⟨r.modeChange?⟩ := by rw [hp]
  have hother : (Transaction.mk r.modeChange?).isFor a.id = false := by
    by_contra hfor
    obtain ⟨m, hm⟩ := Transaction.exists_mode_of_isFor (Bool.not_eq_false _ ▸ hfor)
    have hchange := congrArg Transaction.modeChange hm
    exact hlater (Request.usable_of_modeChange? haimed hplan ha hchange).1
  have hheads := (ignoresNotes_usableModes.map_layout s .always).trans
    (ignoresNotes_usableModes.map_aimed s).symm
  obtain ⟨h, hh, hsame⟩ := List.mem_map.mp (hheads ▸ List.mem_map_of_mem ha)
  obtain ⟨hid, hmodes⟩ := Prod.mk.inj hsame
  refine ⟨hs.layout .always, h, hh, hid, ?_⟩
  rw [attempts_layout hs hc .always hh, hmodes, spent, ht]
  simpa [hother] using hfew

end Session

end OutputArranger
